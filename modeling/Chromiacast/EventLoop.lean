import Chromiacast.Statistics
import Chromiacast.StreamRun

/-! Feedback of a session with at most two streams. `process_feedback` walks the four
lists of a compound and routes every item by the SSRCs it names; for one stream
this is a run of its own operations, those whose item names the stream. Events
are listed as they are offered to the channel. -/
namespace Chromiacast
open Basis

inductive StreamType where
  | audio
  | video
  deriving DecidableEq, Repr

structure Session where
  audio : Option StreamState
  video : Option StreamState
  deriving DecidableEq, Repr

inductive SenderError where
  | sessionClosed
  | receiverTimedOut
  | taskFailed (detail : String)
  | transport (operation message : String)
  deriving DecidableEq, Repr

inductive SenderEvent where
  | needsKeyFrame (stream : StreamType)
  | frameAcked (stream : StreamType) (frameId : Int)
  | pictureLoss (stream : StreamType)
  | malformedPacket (error : ParseError)
  | packetRetransmission (stream : StreamType) (frameId : Int) (packetId : UInt16) (packetsQueued : Nat)
  | statisticsUpdated (statistics : SessionStatistics)
  | receiverTimedOut
  | fatalError (error : SenderError)
  deriving DecidableEq, Repr

structure AcknowledgementProgress where
  audio : Bool
  video : Bool
  deriving DecidableEq, Repr

def minimumAudioSyncSource : SyncSource := 1
def maximumAudioSyncSource : SyncSource := 50000
def minimumVideoSyncSource : SyncSource := 50001

def isAudio (syncSource : SyncSource) : Bool :=
  minimumAudioSyncSource ≤ syncSource && syncSource ≤ maximumAudioSyncSource

namespace StreamState

def acceptsReceiverSyncSource (s : StreamState) (syncSource : SyncSource) : Bool :=
  s.receiverSyncSource = syncSource

def sources (s : StreamState) : SyncSource × SyncSource := (s.senderSyncSource,s.receiverSyncSource)

structure Unfed {α : Type} (view : StreamState → α) : Prop where
  delayed : ∀ s delayMs, view (updatePlayoutDelay s delayMs) = view s
  released : ∀ s id, view (release s id) = view s
  advanced : ∀ s checkpoint framesAcked,
    view {s with checkpoint := checkpoint, framesAcked := framesAcked} = view s
  noted : ∀ s count bytes, view {s with lastAckFeedbackCount := count, lastAckBitvectorBytes := bytes} = view s
  nacked : ∀ s count retransmit, view {s with nackCount := count, retransmitQueue := retransmit} = view s

section Unfed
variable {α : Type} {view : StreamState → α}

theorem Unfed.releaseAll (unfed : Unfed view) (s : StreamState) (ids : List Int) :
    view (s.releaseAll ids).1 = view s := by
  induction ids generalizing s with
  | nil => rfl
  | cons id rest ih =>
    simp only [StreamState.releaseAll]
    split
    · exact (ih (s.release id)).trans (unfed.released s id)
    · exact ih s

theorem Unfed.acknowledge (unfed : Unfed view) (s : StreamState) (feedback : CastFeedback) :
    view (s.acknowledge feedback).1 = view s := by
  have cumulative (id : Int) : view (s.acknowledgeUpTo id).1 = view s := by
    simp only [acknowledgeUpTo]
    split
    · rfl
    · exact (unfed.advanced ..).trans (unfed.releaseAll ..)
  have selective (s : StreamState) (id : Int) (ack : Option AckBitvector) :
      view (s.acknowledgeBitvector id ack).1 = view s := by
    cases ack with
    | none => exact unfed.noted ..
    | some ack => exact (unfed.advanced ..).trans ((unfed.releaseAll ..).trans (unfed.noted ..))
  exact (selective ..).trans (cumulative _)

theorem Unfed.handleNack (unfed : Unfed view) (s : StreamState) (id : Int) (packetId : UInt16) :
    view (s.handleNack id packetId).1 = view s := by
  simp only [StreamState.handleNack]
  split <;> exact unfed.nacked ..

theorem Unfed.handleNacks (unfed : Unfed view) (checkpoint : Int) (s : StreamState) (nacks : List PacketNack) :
    view (StreamState.handleNacks checkpoint s nacks).1 = view s := by
  induction nacks generalizing s with
  | nil => rfl
  | cons nack rest ih =>
    simp only [StreamState.handleNacks]
    exact (ih _).trans (unfed.handleNack ..)

theorem Unfed.processCast (unfed : Unfed view) (s : StreamState) (feedback : CastFeedback) :
    view (s.processCastFeedback feedback).1 = view s := by
  simp only [processCastFeedback]
  rw [unfed.handleNacks,unfed.acknowledge,unfed.delayed]

end Unfed

theorem outgoingUnfed : Unfed outgoing where
  delayed _ _ := rfl
  released _ _ := rfl
  advanced _ _ _ := rfl
  noted _ _ _ := rfl
  nacked _ _ _ := rfl

theorem stepSources (aes : BlockCipher) (s : StreamState) (operation : Operation) :
    (step aes s operation).1.sources = s.sources := by
  cases operation with
  | enqueueFrame frame =>
    rcases enqueueCases aes s frame with ⟨_,_,result⟩ | ⟨error,result⟩
    · simp only [step,result]
      rfl
    · simp only [step,result]
      rfl
  | castFeedback feedback =>
    exact congrArg (fun o : Outgoing => (o.senderSyncSource,o.receiverSyncSource)) (outgoingUnfed.processCast s feedback)
  | nextPacket =>
    obtain ⟨_,_,written⟩ := s.nextPacketWrites
    simp only [step,written,sources]
  | recordPacketSent packetSize retransmission =>
    obtain ⟨_,_,_,written⟩ := s.recordPacketSentWrites packetSize retransmission
    simp only [step,written,sources]
  | receiverReport report receivedAt =>
    obtain ⟨_,written⟩ := s.updateReceiverReportWrites report receivedAt
    simp only [step,written,sources]
  | setTargetPlayoutDelay delay => rfl
  | recordSenderReport compactNtp sentAt => rfl
  | receiverReferenceTime report => rfl

end StreamState

namespace Session

def get (s : Session) : StreamType → Option StreamState
  | .audio => s.audio
  | .video => s.video

def put (s : Session) (type : StreamType) (stream : StreamState) : Session :=
  match type with
  | .audio => {s with audio := some stream}
  | .video => {s with video := some stream}

/- Both lookups try the audio stream first. -/
def locate (s : Session) (matching : StreamState → Bool) : Option (StreamType × StreamState) :=
  if s.audio.any matching then s.audio.map (Prod.mk .audio)
  else if s.video.any matching then s.video.map (Prod.mk .video)
  else none

def findStreamBySenderSyncSource (s : Session) (syncSource : SyncSource) : StreamType × Option StreamState :=
  match s.locate (fun stream => stream.senderSyncSource = syncSource) with
  | some (type,stream) => (type,some stream)
  | none => if isAudio syncSource then (.audio,none) else (.video,none)

def findStreamByReceiverSyncSource (s : Session) (syncSource : SyncSource) : Option (StreamType × StreamState) :=
  s.locate (fun stream => stream.receiverSyncSource = syncSource)

def processReceiverReport (receivedAt : Nat) (s : Session) (report : ReceiverReport) : Session :=
  match s.findStreamBySenderSyncSource report.syncSource with
  | (_,none) => s
  | (type,some stream) =>
    if ¬ stream.acceptsReceiverSyncSource report.receiverSyncSource then s
    else s.put type (stream.updateReceiverReport report receivedAt)

structure Processing where
  session : Session
  progress : AcknowledgementProgress
  events : List SenderEvent

def advanced (progress : AcknowledgementProgress) : StreamType → AcknowledgementProgress
  | .audio => {progress with audio := true}
  | .video => {progress with video := true}

def processCast (p : Processing) (feedback : CastFeedback) : Processing :=
  match p.session.findStreamBySenderSyncSource feedback.senderSyncSource with
  | (_,none) => p
  | (type,some stream) =>
    if ¬ stream.acceptsReceiverSyncSource feedback.receiverSyncSource then p else
      let result := stream.processCastFeedback feedback
      ⟨p.session.put type result.1,if result.2.1.isEmpty then p.progress else advanced p.progress type,
        p.events ++ result.2.1.map (SenderEvent.frameAcked type) ++
          result.2.2.map (fun r => .packetRetransmission type r.frameId r.packetId r.packetsQueued)⟩

def pictureLossEvents (s : Session) (loss : PictureLossIndication) : List SenderEvent :=
  match s.findStreamBySenderSyncSource loss.senderSyncSource with
  | (type,stream) =>
    if stream.any (fun stream => stream.acceptsReceiverSyncSource loss.receiverSyncSource) then
      [.pictureLoss type,.needsKeyFrame type]
    else []

def processReferenceTime (s : Session) (report : ReceiverReferenceTime) : Session :=
  match s.findStreamByReceiverSyncSource report.receiverSyncSource with
  | none => s
  | some (type,stream) => s.put type (stream.updateReceiverReferenceTime report)

def processFeedback (s : Session) (compound : CompoundRtcpPacket) (receivedAt : Nat) : Processing :=
  let reported := compound.receiverReports.foldl (processReceiverReport receivedAt) s
  let cast := compound.castFeedbacks.foldl processCast ⟨reported,⟨false,false⟩,[]⟩
  let losses := compound.pictureLoss.flatMap cast.session.pictureLossEvents
  ⟨compound.receiverReferenceTimes.foldl processReferenceTime cast.session,cast.progress,cast.events ++ losses⟩

def containsReceiverFeedback (compound : CompoundRtcpPacket) : Bool :=
  ¬ compound.receiverReports.isEmpty || ¬ compound.castFeedbacks.isEmpty ||
    ¬ compound.pictureLoss.isEmpty || ¬ compound.receiverReferenceTimes.isEmpty

def receiveDatagram (s : Session) (data : Bytes) (receivedAt : Nat) : Processing :=
  match classifyPacket data with
  | .rtcp _ =>
    match parseCompound data with
    | .ok compound =>
      if containsReceiverFeedback compound then s.processFeedback compound receivedAt else ⟨s,⟨false,false⟩,[]⟩
    | .err error => ⟨s,⟨false,false⟩,[.malformedPacket error]⟩
    | .panic => ⟨s,⟨false,false⟩,[]⟩
  | _ => ⟨s,⟨false,false⟩,[]⟩

end Session
end Chromiacast
