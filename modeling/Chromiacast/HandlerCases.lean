import Chromiacast.SenderLoop

/-! What handling an input can come to, said once for every property of the loop. -/
namespace Chromiacast
open Basis

inductive Reported : SenderLoop → SenderLoop → Prop
  | none (l : SenderLoop) : Reported l l
  | sent {l after : SenderLoop} {type : StreamType} {stream : StreamState} (here : l.session.get type = some stream)
      (compactNtp : UInt32) (sentAt : Nat)
      (rest : Reported {l with session := l.session.put type (stream.recordSenderReport compactNtp sentAt)} after) :
      Reported l after

theorem Reported.trans {l middle after : SenderLoop} (first : Reported l middle) (second : Reported middle after) :
    Reported l after := by
  induction first with
  | none => exact second
  | sent here compactNtp sentAt _ ih => exact .sent here compactNtp sentAt (ih second)

theorem sendSenderReportReported (l : SenderLoop) (type : StreamType) (operation : String) (report : Reporting) :
    Reported l (l.sendSenderReport type operation report).1 := by
  unfold SenderLoop.sendSenderReport
  split
  · exact .none l
  · rename_i stream here
    simp only
    split
    · exact .none l
    · exact .sent here _ _ (.none _)

def SenderLoop.accept (aes : BlockCipher) (l : SenderLoop) (type : StreamType) (stream : StreamState)
    (frame : EncodedFrame) : SenderLoop :=
  {l with session := l.session.put type (stream.acceptFrame aes frame)}

def SenderLoop.reject (l : SenderLoop) (type : StreamType) (stream : StreamState) (error : EnqueueError) : SenderLoop :=
  {l with session := l.session.put type (stream.rejectFrame error).2}

def SenderLoop.poll (l : SenderLoop) (audioAt videoAt : Nat) : SenderLoop :=
  {l with
    audioWatchdog := (l.audioWatchdog.timedOut (l.inFlight .audio ≠ 0) audioAt).1
    videoWatchdog := (l.videoWatchdog.timedOut (l.inFlight .video ≠ 0) videoAt).1}

inductive Handles (aes : BlockCipher) (l : SenderLoop) : SenderInput → Handled → Prop
  | idle (input : SenderInput) (reply : Option Reply) : Handles aes l input {loop := l, reply := reply}
  | ended (input : SenderInput) (reply : Option Reply) :
      Handles aes l input {loop := l, reply := reply, exit := some (.ok ())}
  | rejected {type : StreamType} {stream : StreamState} (here : l.session.get type = some stream) {frame : EncodedFrame}
      {error : EnqueueError} (rejected : stream.enqueueFrame aes frame = stream.rejectFrame error) (flush : Flush)
      (now : Nat) : Handles aes l (.enqueueFrame type frame flush now)
        {loop := (l.reject type stream error).publish true now, reply := some (.enqueued (.error error))}
  | accepted {type : StreamType} {stream : StreamState} (here : l.session.get type = some stream) {frame : EncodedFrame}
      (room : stream.inFlightIdSpan < maxUnackedFrames)
      (accepted : stream.enqueueFrame aes frame = (.ok stream.nextFrameId,stream.acceptFrame aes frame)) (flush : Flush)
      (now : Nat) : Handles aes l (.enqueueFrame type frame flush now)
        (SenderLoop.thenFlush {loop := l.accept aes type stream frame, reply := some (.enqueued (.ok stream.nextFrameId))}
          flush fun after => after.publish (l.session.streamFeedbackState type ≠
            (l.accept aes type stream frame).session.streamFeedbackState type) now)
  | delayed {delay : Nat} {session : Session} (set : l.session.setTargetPlayoutDelay delay = (.ok (),session))
      (now : Nat) : Handles aes l (.setTargetPlayoutDelay delay now)
        {loop := {l with session := session}.publish (l.session.sessionFeedbackState ≠ session.sessionFeedbackState) now
         reply := some (.playoutDelay (.ok ()))}
  | burst (flush : Flush) : Handles aes l (.burstTick flush) (SenderLoop.thenFlush {loop := l} flush id)
  | feedback (data : Bytes) (source : SocketAddr) (compound : CompoundRtcpPacket) (times : FeedbackTimes) (flush : Flush)
      (now : Nat) : Handles aes l (.received data source times flush now) (l.onFeedback compound times flush now)
  | malformed (input : SenderInput) (error : ParseError) :
      Handles aes l input {loop := l, emissions := [.nonterminal (.malformedPacket error)]}
  | receiveFailed (interrupted : Bool) (message : String) : Handles aes l (.receiveError interrupted message)
      (Handled.fail {loop := l} (.transport "receive RTCP packet" message))
  | reported {after : SenderLoop} (sent : Reported l after) (audio video : Reporting) :
      Handles aes l (.rtcpTick audio video) {loop := after}
  | reportFailed {after : SenderLoop} (sent : Reported l after) (audio video : Reporting) (error : SenderError) :
      Handles aes l (.rtcpTick audio video) (Handled.fail {loop := after} error)
  | snapshot (pending : l.statisticsPending) (now : Nat) : Handles aes l (.statisticsTick now)
      {loop := {l with statisticsPending := false}
       emissions := [.nonterminal (.statisticsUpdated l.session.sessionStatistics)]}
  | polled (audioAt videoAt : Nat) : Handles aes l (.timeoutTick audioAt videoAt) {loop := l.poll audioAt videoAt}
  | timedOut (audioAt videoAt : Nat) : Handles aes l (.timeoutTick audioAt videoAt)
      {loop := l.poll audioAt videoAt, emissions := [.terminal .receiverTimedOut], exit := some (.error .receiverTimedOut)}

namespace SenderLoop

theorem handles (aes : BlockCipher) (remote : SocketAddr) (l : SenderLoop) (input : SenderInput) :
    Handles aes l input (l.handle aes remote input) := by
  cases input with
  | enqueueFrame type frame flush now =>
    simp only [handle,onEnqueueFrame]
    split
    · exact .idle _ _
    · rename_i stream here
      rcases StreamState.enqueueCases aes stream frame with ⟨_,room,accepted⟩ | ⟨error,rejected⟩
      · simp only [accepted]
        exact .accepted here room accepted flush now
      · simp only [rejected]
        exact .rejected here rejected flush now
  | statistics => exact .idle _ _
  | setTargetPlayoutDelay delay now =>
    simp only [handle,onSetTargetPlayoutDelay]
    split
    · exact .idle _ _
    · rename_i session set
      exact .delayed set now
  | shutdown => exact .ended _ _
  | commandsClosed => exact .ended _ _
  | burstTick flush => exact .burst flush
  | received data source times flush now =>
    simp only [handle,onReceived]
    split
    · exact .idle _ _
    · split
      · split
        · split
          · exact .feedback data source _ times flush now
          · exact .idle _ _
        · exact .malformed _ _
        · exact .idle _ _
      · exact .idle _ _
  | receiveError interrupted message =>
    simp only [handle]
    split
    · exact .idle _ _
    · exact .receiveFailed interrupted message
  | rtcpTick audio video =>
    have first := sendSenderReportReported l .audio "send audio RTCP Sender Report" audio
    simp only [handle,onRtcpTick]
    split
    · rename_i after error sent
      rw [sent] at first
      exact .reportFailed first audio video error
    · rename_i after _ sent
      rw [sent] at first
      have second := sendSenderReportReported after .video "send video RTCP Sender Report" video
      split
      · rename_i last error sent'
        rw [sent'] at second
        exact .reportFailed (first.trans second) audio video error
      · rename_i last _ sent'
        rw [sent'] at second
        exact .reported (first.trans second) audio video
  | statisticsTick now =>
    simp only [handle,onStatisticsTick]
    split
    · rename_i due
      exact .snapshot due.1 now
    · exact .idle _ _
  | timeoutTick audioAt videoAt =>
    simp only [handle,onTimeoutTick]
    split
    · exact .timedOut audioAt videoAt
    · exact .polled audioAt videoAt

end SenderLoop
end Chromiacast
