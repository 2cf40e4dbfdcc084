import Chromiacast.Basis.Channel
import Chromiacast.BurstBudget

/-! The sender's event loop. One step takes a command, a datagram, a failed receive or
one of the four timers. Everything the surroundings decide comes with the input: the
readings of the clocks, what the transport answers to each datagram, and how far the
consumer of the events reads meanwhile. -/
namespace Chromiacast
open Basis

def initialReceiverAcknowledgementTimeout : Nat := 10*nanosPerSecond
def receiverAcknowledgementTimeout : Nat := 5*nanosPerSecond
def statisticsDebounceInterval : Nat := millis 100
def reservedTerminalEventSlots : Nat := 2
def eventSlots : Nat := 64

structure AcknowledgementWatchdog where
  waitingSince : Option Nat
  hasAcknowledged : Bool
  deriving DecidableEq, Repr

namespace AcknowledgementWatchdog

def new : AcknowledgementWatchdog := ⟨none,false⟩

def packetSent (w : AcknowledgementWatchdog) (now : Nat) : AcknowledgementWatchdog :=
  {w with waitingSince := some (w.waitingSince.getD now)}

def acknowledgementAdvanced (framesStillInFlight : Bool) (now : Nat) : AcknowledgementWatchdog :=
  ⟨if framesStillInFlight then some now else none,true⟩

def timeout (w : AcknowledgementWatchdog) : Nat :=
  if w.hasAcknowledged then receiverAcknowledgementTimeout else initialReceiverAcknowledgementTimeout

def timedOut (w : AcknowledgementWatchdog) (framesInFlight : Bool) (now : Nat) : AcknowledgementWatchdog × Bool :=
  if ¬ framesInFlight then ({w with waitingSince := none},false)
  else (w,w.waitingSince.any fun waitingSince => w.timeout ≤ now-waitingSince)

end AcknowledgementWatchdog

structure Flush where
  refilledAt : Nat
  sendTo : Nat → Bytes → Except String Nat
  sentAt : Nat → Nat

def sendDatagram (data : Bytes) (operation : String) (sent : Except String Nat) : Except SenderError Unit :=
  match sent with
  | .error message => .error (.transport operation message)
  | .ok written =>
    if written ≠ data.length then
      .error (.transport operation ("short datagram write: wrote " ++ toString written ++ " of " ++
        toString data.length ++ " bytes"))
    else .ok ()

structure Transmission where
  stream : StreamType
  outbound : OutboundPacket
  sentAt : Nat
  deriving DecidableEq, Repr

structure Flushed where
  stream : StreamState
  watchdog : AcknowledgementWatchdog
  budget : BurstBudget
  sent : List Transmission
  result : Except SenderError Unit

/- The loop of `flush_stream_packets`; one round per queued packet is enough. The datagrams of
a flush are counted from the first stream on. -/
def flushRounds (type : StreamType) (operation : String) (flush : Flush) :
    Nat → Nat → StreamState → AcknowledgementWatchdog → BurstBudget → Flushed
  | 0,_,s,watchdog,budget => ⟨s,watchdog,budget,[],.ok ()⟩
  | rounds+1,k,s,watchdog,budget =>
    if budget.hasCredit then
      match s.nextPacket with
      | (none,_) => ⟨s,watchdog,budget,[],.ok ()⟩
      | (some outbound,t) =>
        let length := outbound.packet.data.length
        match sendDatagram outbound.packet.data operation (flush.sendTo k outbound.packet.data) with
        | .error error => ⟨t,watchdog,budget,[],.error error⟩
        | .ok _ =>
          let rest := flushRounds type operation flush rounds (k+1)
            (t.recordPacketSent length outbound.retransmission) (watchdog.packetSent (flush.sentAt k))
            (budget.consume length)
          {rest with sent := ⟨type,outbound,flush.sentAt k⟩::rest.sent}
    else ⟨s,watchdog,budget,[],.ok ()⟩

/- What `run` owns. The count of statistics triggers is only logged. -/
structure SenderLoop where
  session : Session
  audioWatchdog : AcknowledgementWatchdog
  videoWatchdog : AcknowledgementWatchdog
  burstBudget : BurstBudget
  statisticsPending : Bool
  statisticsDeadline : Nat
  deriving DecidableEq, Repr

namespace SenderLoop

def new (session : Session) (now : Nat) : SenderLoop :=
  ⟨session,.new,.new,.new now,false,now+statisticsDebounceInterval⟩

def watchdog (l : SenderLoop) : StreamType → AcknowledgementWatchdog
  | .audio => l.audioWatchdog
  | .video => l.videoWatchdog

def setWatchdog (l : SenderLoop) (type : StreamType) (watchdog : AcknowledgementWatchdog) : SenderLoop :=
  match type with
  | .audio => {l with audioWatchdog := watchdog}
  | .video => {l with videoWatchdog := watchdog}

def flushStream (l : SenderLoop) (type : StreamType) (operation : String) (flush : Flush) (k : Nat) :
    SenderLoop × List Transmission × Except SenderError Unit :=
  match l.session.get type with
  | none => (l,[],.ok ())
  | some s =>
    let flushed := flushRounds type operation flush s.queued k s (l.watchdog type) l.burstBudget
    ({l with session := l.session.put type flushed.stream, burstBudget := flushed.budget}.setWatchdog type
      flushed.watchdog,flushed.sent,flushed.result)

def flushQueuedPackets (l : SenderLoop) (flush : Flush) : SenderLoop × List Transmission × Except SenderError Unit :=
  let refilled := {l with burstBudget := l.burstBudget.refill flush.refilledAt}
  let audio := refilled.flushStream .audio "send audio RTP packet" flush 0
  match audio.2.2 with
  | .error error => (audio.1,audio.2.1,.error error)
  | .ok _ =>
    let video := audio.1.flushStream .video "send video RTP packet" flush audio.2.1.length
    (video.1,audio.2.1 ++ video.2.1,video.2.2)

end SenderLoop

inductive PlayoutDelayError where
  | invalidDelay
  | unsupported
  | sessionClosed
  deriving DecidableEq, Repr

inductive Reply where
  | enqueued (result : Except EnqueueError Int)
  | statistics (statistics : SessionStatistics)
  | playoutDelay (result : Except PlayoutDelayError Unit)
  | closed

namespace Session

def sessionStatistics (s : Session) : SessionStatistics :=
  ⟨s.audio.map StreamState.statistics,s.video.map StreamState.statistics⟩

def streamFeedbackState (s : Session) (type : StreamType) : Option StreamFeedbackState :=
  (s.get type).map fun stream => stream.statistics.feedbackState

def sessionFeedbackState (s : Session) : Option StreamFeedbackState × Option StreamFeedbackState :=
  (s.streamFeedbackState .audio,s.streamFeedbackState .video)

def inFlight (s : Session) (type : StreamType) : Nat := (s.get type).elim 0 StreamState.inFlightCount

def setTargetPlayoutDelay (s : Session) (delay : Nat) : Except PlayoutDelayError Unit × Session :=
  if (s.audio.toList ++ s.video.toList).any fun stream => !stream.adaptivePlayoutDelay then (.error .unsupported,s)
  else (.ok (),⟨s.audio.map fun stream => stream.setTargetPlayoutDelay delay,
    s.video.map fun stream => stream.setTargetPlayoutDelay delay⟩)

end Session

structure Reporting where
  ntpNow : NtpTimestamp
  monotonicNow : Nat
  sendTo : Bytes → Except String Nat
  sentAt : Nat

namespace StreamState

def senderReportTimestamp (s : StreamState) (ntpNow : NtpTimestamp) (monotonicNow : Nat) : NtpTimestamp × UInt32 :=
  match s.lastReferenceTime with
  | none => (ntpNow,s.lastRtpTimestamp)
  | some referenceTime =>
    if referenceTime ≤ monotonicNow then
      (ntpNow,s.lastRtpTimestamp+mediaToRtpTimestamp (monotonicNow-referenceTime) s.rtpTimebase)
    else (ntpNow,s.lastRtpTimestamp-mediaToRtpTimestamp (referenceTime-monotonicNow) s.rtpTimebase)

def senderReport (s : StreamState) (report : Reporting) : Bytes :=
  let stamps := s.senderReportTimestamp report.ntpNow report.monotonicNow
  [0x80,rtcpSenderReport] ++ be 2 6 ++ be 4 s.senderSyncSource.toNat ++ be 4 stamps.1.upper32.toNat ++
    be 4 stamps.1.fraction.toNat ++ be 4 stamps.2.toNat ++ be 4 (UInt32.ofNat s.rtpPacketsSent).toNat ++
    be 4 (UInt32.ofNat s.rtpOctetsSent).toNat

end StreamState

inductive SocketAddr where
  | v4 (ip : BitVec 32) (port : UInt16)
  | v6 (ip : BitVec 128) (port : UInt16) (scopeId : UInt32)
  deriving DecidableEq, Repr

def isExpectedReceiverSource : SocketAddr → SocketAddr → Bool
  | .v4 source _,.v4 destination _ => source = destination
  | .v6 source _ sourceScope,.v6 destination _ scope => source = destination && (scope = 0 || sourceScope = scope)
  | _,_ => false

structure FeedbackTimes where
  receivedAt : Nat
  audioAdvancedAt : Nat
  videoAdvancedAt : Nat

def FeedbackTimes.advancedAt (times : FeedbackTimes) : StreamType → Nat
  | .audio => times.audioAdvancedAt
  | .video => times.videoAdvancedAt

def AcknowledgementProgress.get (progress : AcknowledgementProgress) : StreamType → Bool
  | .audio => progress.audio
  | .video => progress.video

inductive SenderInput where
  | enqueueFrame (stream : StreamType) (frame : EncodedFrame) (flush : Flush) (debouncedAt : Nat)
  | statistics
  | setTargetPlayoutDelay (delay : Nat) (debouncedAt : Nat)
  | shutdown
  | commandsClosed
  | burstTick (flush : Flush)
  | received (data : Bytes) (source : SocketAddr) (times : FeedbackTimes) (flush : Flush) (debouncedAt : Nat)
  | receiveError (interrupted : Bool) (message : String)
  | rtcpTick (audio video : Reporting)
  | statisticsTick (now : Nat)
  | timeoutTick (audioAt videoAt : Nat)

structure Handled where
  loop : SenderLoop
  reply : Option Reply := none
  emissions : List (Channel.Emission SenderEvent) := []
  advancedAt : StreamType → Nat := fun _ => 0
  sent : List Transmission := []
  exit : Option (Except SenderError Unit) := none

def emitFatal (error : SenderError) : Channel.Emission SenderEvent := .terminal (.fatalError error)

def Handled.fail (h : Handled) (error : SenderError) : Handled :=
  {h with emissions := h.emissions ++ [emitFatal error], exit := some (.error error)}

namespace SenderLoop

def inFlight (l : SenderLoop) (type : StreamType) : Nat := l.session.inFlight type

def publish (l : SenderLoop) (changed : Bool) (now : Nat) : SenderLoop :=
  if changed && !l.statisticsPending then
    {l with statisticsPending := true, statisticsDeadline := now+statisticsDebounceInterval}
  else l

theorem publishSession (l : SenderLoop) (changed : Bool) (now : Nat) : (l.publish changed now).session = l.session := by
  unfold publish
  split <;> rfl

theorem publishWatchdog (l : SenderLoop) (changed : Bool) (now : Nat) (type : StreamType) :
    (l.publish changed now).watchdog type = l.watchdog type := by
  unfold publish
  split
  · cases type <;> rfl
  · rfl

def thenFlush (h : Handled) (flush : Flush) (next : SenderLoop → SenderLoop) : Handled :=
  match h.loop.flushQueuedPackets flush with
  | (l,sent,.error error) => Handled.fail {h with loop := l, sent := sent} error
  | (l,sent,.ok _) => {h with loop := next l, sent := sent}

def onEnqueueFrame (aes : BlockCipher) (l : SenderLoop) (type : StreamType) (frame : EncodedFrame) (flush : Flush)
    (debouncedAt : Nat) : Handled :=
  let feedbackBefore := l.session.streamFeedbackState type
  match l.session.get type with
  | none => {loop := l, reply := some (.enqueued (.error .sessionClosed))}
  | some stream =>
    let result := stream.enqueueFrame aes frame
    let l := {l with session := l.session.put type result.2}
    let h : Handled := {loop := l, reply := some (.enqueued result.1)}
    match result.1 with
    | .error _ => {h with loop := l.publish true debouncedAt}
    | .ok _ => thenFlush h flush fun after =>
        after.publish (feedbackBefore ≠ l.session.streamFeedbackState type) debouncedAt

def onSetTargetPlayoutDelay (l : SenderLoop) (delay debouncedAt : Nat) : Handled :=
  let feedbackBefore := l.session.sessionFeedbackState
  match l.session.setTargetPlayoutDelay delay with
  | (.error error,_) => {loop := l, reply := some (.playoutDelay (.error error))}
  | (.ok _,session) =>
    {loop := {l with session := session}.publish (feedbackBefore ≠ session.sessionFeedbackState) debouncedAt,
     reply := some (.playoutDelay (.ok ()))}

def advance (l : SenderLoop) (progress : AcknowledgementProgress) (times : FeedbackTimes) (type : StreamType) : SenderLoop :=
  if progress.get type then
    l.setWatchdog type (.acknowledgementAdvanced (l.inFlight type ≠ 0) (times.advancedAt type))
  else l

def onFeedback (l : SenderLoop) (compound : CompoundRtcpPacket) (times : FeedbackTimes) (flush : Flush)
    (debouncedAt : Nat) : Handled :=
  let feedbackBefore := l.session.sessionFeedbackState
  let processed := l.session.processFeedback compound times.receivedAt
  let advanced := ({l with session := processed.session}.advance processed.progress times .audio).advance
    processed.progress times .video
  thenFlush {loop := advanced, emissions := processed.events.map .nonterminal, advancedAt := times.advancedAt} flush
    fun after => after.publish (feedbackBefore ≠ after.session.sessionFeedbackState) debouncedAt

/- A panic of the parser would end the session. -/
def onReceived (remoteAddress : SocketAddr) (l : SenderLoop) (data : Bytes) (source : SocketAddr) (times : FeedbackTimes)
    (flush : Flush) (debouncedAt : Nat) : Handled :=
  if ¬ isExpectedReceiverSource source remoteAddress then {loop := l} else
    match classifyPacket data with
    | .rtcp _ =>
      match parseCompound data with
      | .ok compound =>
        if Session.containsReceiverFeedback compound then l.onFeedback compound times flush debouncedAt else {loop := l}
      | .err error => {loop := l, emissions := [.nonterminal (.malformedPacket error)]}
      | .panic => {loop := l}
    | _ => {loop := l}

def sendSenderReport (l : SenderLoop) (type : StreamType) (operation : String) (report : Reporting) :
    SenderLoop × Except SenderError Unit :=
  match l.session.get type with
  | none => (l,.ok ())
  | some stream =>
    let data := stream.senderReport report
    match sendDatagram data operation (report.sendTo data) with
    | .error error => (l,.error error)
    | .ok _ =>
      let recorded := stream.recordSenderReport report.ntpNow.middle32 report.sentAt
      ({l with session := l.session.put type recorded},.ok ())

def onRtcpTick (l : SenderLoop) (audio video : Reporting) : Handled :=
  match l.sendSenderReport .audio "send audio RTCP Sender Report" audio with
  | (after,.error error) => Handled.fail {loop := after} error
  | (after,.ok _) =>
    match after.sendSenderReport .video "send video RTCP Sender Report" video with
    | (last,.error error) => Handled.fail {loop := last} error
    | (last,.ok _) => {loop := last}

/- The timer only counts while statistics are pending. -/
def onStatisticsTick (l : SenderLoop) (now : Nat) : Handled :=
  if l.statisticsPending ∧ l.statisticsDeadline ≤ now then
    {loop := {l with statisticsPending := false},
     emissions := [.nonterminal (.statisticsUpdated l.session.sessionStatistics)]}
  else {loop := l}

def onTimeoutTick (l : SenderLoop) (audioAt videoAt : Nat) : Handled :=
  let audio := l.audioWatchdog.timedOut (l.inFlight .audio ≠ 0) audioAt
  let video := l.videoWatchdog.timedOut (l.inFlight .video ≠ 0) videoAt
  let polled := {l with audioWatchdog := audio.1, videoWatchdog := video.1}
  if audio.2 || video.2 then
    {loop := polled, emissions := [.terminal .receiverTimedOut], exit := some (.error .receiverTimedOut)}
  else {loop := polled}

def handle (aes : BlockCipher) (remoteAddress : SocketAddr) (l : SenderLoop) : SenderInput → Handled
  | .enqueueFrame stream frame flush debouncedAt => l.onEnqueueFrame aes stream frame flush debouncedAt
  | .statistics => {loop := l, reply := some (.statistics l.session.sessionStatistics)}
  | .setTargetPlayoutDelay delay debouncedAt => l.onSetTargetPlayoutDelay delay debouncedAt
  | .shutdown => {loop := l, reply := some .closed, exit := some (.ok ())}
  | .commandsClosed => {loop := l, exit := some (.ok ())}
  | .burstTick flush => thenFlush {loop := l} flush id
  | .received data source times flush debouncedAt => l.onReceived remoteAddress data source times flush debouncedAt
  | .receiveError interrupted message =>
    if interrupted then {loop := l} else Handled.fail {loop := l} (.transport "receive RTCP packet" message)
  | .rtcpTick audio video => l.onRtcpTick audio video
  | .statisticsTick now => l.onStatisticsTick now
  | .timeoutTick audioAt videoAt => l.onTimeoutTick audioAt videoAt

end SenderLoop

structure SenderRun where
  loop : SenderLoop
  result : Option (Except SenderError Unit)
  events : Channel SenderEvent

inductive SenderAction where
  | read (count : Nat)
  | take (input : SenderInput) (reads : Nat → Channel.Reads)

namespace SenderRun

def new (session : Session) (now : Nat) : SenderRun := ⟨.new session now,none,.new eventSlots⟩

def step (aes : BlockCipher) (remoteAddress : SocketAddr) (w : SenderRun) : SenderAction → SenderRun × Option Handled
  | .read count => ({w with events := w.events.read count},none)
  | .take input reads =>
    match w.result with
    | some _ => (w,none)
    | none =>
      let handled := w.loop.handle aes remoteAddress input
      (⟨handled.loop,handled.exit,Channel.emitAll reservedTerminalEventSlots reads 0 w.events handled.emissions⟩,some handled)

inductive StepTaken (aes : BlockCipher) (remoteAddress : SocketAddr) (w : SenderRun) :
    SenderAction → SenderRun → Option Handled → Prop
  | read (count : Nat) : StepTaken aes remoteAddress w (.read count) {w with events := w.events.read count} none
  | ended (input : SenderInput) (reads : Nat → Channel.Reads) (returned : w.result ≠ none) :
      StepTaken aes remoteAddress w (.take input reads) w none
  | handled (input : SenderInput) (reads : Nat → Channel.Reads) (running : w.result = none) (h : Handled)
      (handled : h = w.loop.handle aes remoteAddress input) :
      StepTaken aes remoteAddress w (.take input reads)
        ⟨h.loop,h.exit,Channel.emitAll reservedTerminalEventSlots reads 0 w.events h.emissions⟩ (some h)

theorem stepTaken (aes : BlockCipher) (remoteAddress : SocketAddr) (w : SenderRun) (action : SenderAction) :
    w.StepTaken aes remoteAddress action (w.step aes remoteAddress action).1 (w.step aes remoteAddress action).2 := by
  cases action with
  | read count => exact .read count
  | take input reads =>
    simp only [step]
    cases result : w.result with
    | some returned => exact .ended input reads (by rw [result]; exact Option.some_ne_none _)
    | none => exact .handled input reads result _ rfl

def run (aes : BlockCipher) (remoteAddress : SocketAddr) (session : Session) (now : Nat) (actions : List SenderAction) :
    SenderRun × List (Option Handled) :=
  Machine.run (step aes remoteAddress) (new session now) actions

end SenderRun

def SenderEvent.isFeedback : SenderEvent → Bool
  | .needsKeyFrame _ => true
  | .frameAcked _ _ => true
  | .pictureLoss _ => true
  | .packetRetransmission _ _ _ _ => true
  | _ => false

namespace Session

def Events (events : List SenderEvent) : Prop := ∀ event ∈ events, event.isFeedback

theorem eventsMap {ι : Type} (items : List ι) {f : ι → SenderEvent} (feedback : ∀ item, (f item).isFeedback) :
    Events (items.map f) := by
  intro event member
  obtain ⟨item,_,rfl⟩ := List.mem_map.mp member
  exact feedback item

theorem processCastEvents {p : Processing} (earlier : Events p.events) (feedback : CastFeedback) :
    Events (processCast p feedback).events := by
  unfold processCast
  split
  · exact earlier
  · split
    · exact earlier
    · intro event member
      rcases List.mem_append.mp member with first | nacked
      · rcases List.mem_append.mp first with before | acked
        · exact earlier event before
        · exact eventsMap _ (fun _ => rfl) event acked
      · exact eventsMap _ (fun _ => rfl) event nacked

theorem castFoldEvents (feedbacks : List CastFeedback) {p : Processing} (earlier : Events p.events) :
    Events (feedbacks.foldl processCast p).events := by
  induction feedbacks generalizing p with
  | nil => exact earlier
  | cons feedback rest ih => exact ih (processCastEvents earlier feedback)

theorem pictureLossEventsFeedback (s : Session) (loss : PictureLossIndication) : Events (s.pictureLossEvents loss) := by
  intro event member
  unfold pictureLossEvents at member
  split at member
  split at member
  · rcases List.mem_cons.mp member with rfl | last
    · rfl
    · cases List.mem_singleton.mp last
      rfl
  · cases member

theorem processFeedbackEvents (s : Session) (compound : CompoundRtcpPacket) (receivedAt : Nat) :
    Events (s.processFeedback compound receivedAt).events := by
  intro event member
  rcases List.mem_append.mp member with cast | lost
  · exact castFoldEvents _ (fun event none => by cases none) event cast
  · obtain ⟨loss,_,offered⟩ := List.mem_flatMap.mp lost
    exact pictureLossEventsFeedback _ loss event offered

end Session

end Chromiacast
