import Chromiacast.Basis.Machine
import Chromiacast.Feedback

/-! Runs of one stream under every operation the session performs on it, in any
order and with arbitrary wire values. `Effect` lists once what a step can do; each
invariant is a case analysis on it. The trace keeps what every call returned. -/
namespace Chromiacast.StreamState
open Basis

inductive Operation where
  | enqueueFrame (frame : EncodedFrame)
  | castFeedback (feedback : CastFeedback)
  | nextPacket
  | recordPacketSent (packetSize : Nat) (retransmission : Bool)
  | setTargetPlayoutDelay (delay : Nat)
  | recordSenderReport (compactNtp : UInt32) (sentAt : Nat)
  | receiverReport (report : ReceiverReport) (receivedAt : Nat)
  | receiverReferenceTime (report : ReceiverReferenceTime)
  deriving DecidableEq, Repr

inductive Output where
  | accepted (id : Int) (frame : EncodedFrame) (packets : List RtpPacket)
  | rejected (error : EnqueueError)
  | processed (acknowledged : List Int) (retransmissions : List Retransmission)
  | outbound (packet : Option OutboundPacket)
  | done
  deriving DecidableEq, Repr

def step (aes : BlockCipher) (s : StreamState) : Operation → StreamState × Output
  | .enqueueFrame frame =>
    match s.enqueueFrame aes frame with
    | (.ok id,t) => (t,.accepted id frame (s.packetized aes frame).1)
    | (.error error,t) => (t,.rejected error)
  | .castFeedback feedback =>
    let result := s.processCastFeedback feedback
    (result.1,.processed result.2.1 result.2.2)
  | .nextPacket => (s.nextPacket.2,.outbound s.nextPacket.1)
  | .recordPacketSent packetSize retransmission => (s.recordPacketSent packetSize retransmission,.done)
  | .setTargetPlayoutDelay delay => (s.setTargetPlayoutDelay delay,.done)
  | .recordSenderReport compactNtp sentAt => (s.recordSenderReport compactNtp sentAt,.done)
  | .receiverReport report receivedAt => (s.updateReceiverReport report receivedAt,.done)
  | .receiverReferenceTime report => (s.updateReceiverReferenceTime report,.done)

def run (aes : BlockCipher) (parameters : StreamParameters) (sequenceNumber : UInt16)
    (operations : List Operation) : StreamState × List Output :=
  Machine.run (step aes) (new parameters sequenceNumber) operations

def Output.silent : Output → Bool
  | .rejected _ => true
  | .outbound none => true
  | .done => true
  | _ => false

structure Quiet (s t : StreamState) : Prop where
  pending : t.pending = s.pending
  checkpoint : t.checkpoint = s.checkpoint
  nextFrameId : t.nextFrameId = s.nextFrameId
  framesAcked : t.framesAcked = s.framesAcked
  nackCount : t.nackCount = s.nackCount
  sendQueue : t.sendQueue = s.sendQueue
  retransmitQueue : t.retransmitQueue = s.retransmitQueue
  crypto : t.crypto = s.crypto
  packetizer : t.packetizer = s.packetizer

theorem Quiet.find {s t : StreamState} (q : Quiet s t) (id : Int) : t.find id = s.find id := by
  simp only [StreamState.find,q.pending]

inductive Effect (aes : BlockCipher) (s : StreamState) : StreamState → Output → Prop where
  | accepted (frame : EncodedFrame) (nonempty : frame.data ≠ []) (room : s.inFlightIdSpan < maxUnackedFrames) :
      Effect aes s (s.acceptFrame aes frame) (.accepted s.nextFrameId frame (s.packetized aes frame).1)
  | processed (feedback : CastFeedback) :
      Effect aes s (s.processCastFeedback feedback).1
        (.processed (s.processCastFeedback feedback).2.1 (s.processCastFeedback feedback).2.2)
  | retransmitted (queued : QueuedPacket) (rest : List QueuedPacket) (head : s.retransmitQueue = queued::rest) :
      Effect aes s {s with retransmitQueue := rest} (.outbound (some ⟨queued.packet,true⟩))
  | sent (queued : QueuedPacket) (rest : List QueuedPacket) (head : s.sendQueue = queued::rest) :
      Effect aes s {s with sendQueue := rest} (.outbound (some ⟨queued.packet,false⟩))
  | quiet (t : StreamState) (output : Output) (same : Quiet s t) (silent : output.silent) : Effect aes s t output

theorem Effect.ofSilent {aes : BlockCipher} {s t : StreamState} {output : Output} (effect : Effect aes s t output)
    (silent : output.silent) : Quiet s t := by
  cases effect with
  | quiet _ _ same _ => exact same
  | accepted | processed | retransmitted | sent => simp [Output.silent] at silent

theorem enqueueCases (aes : BlockCipher) (s : StreamState) (frame : EncodedFrame) :
    (frame.data ≠ [] ∧ s.inFlightIdSpan < maxUnackedFrames ∧
      s.enqueueFrame aes frame = (.ok s.nextFrameId,s.acceptFrame aes frame)) ∨
    ∃ error, s.enqueueFrame aes frame = s.rejectFrame error := by
  unfold enqueueFrame
  split
  · exact .inr ⟨_,rfl⟩
  · rename_i nonempty
    split
    · exact .inr ⟨_,rfl⟩
    · split
      · exact .inr ⟨_,rfl⟩
      · split
        · exact .inr ⟨_,rfl⟩
        · rename_i room
          exact .inl ⟨by simpa using nonempty,by omega,rfl⟩

theorem enqueueAccepted {aes : BlockCipher} {s t : StreamState} {frame : EncodedFrame} {id : Int}
    (accepted : s.enqueueFrame aes frame = (.ok id,t)) : id = s.nextFrameId ∧ t = s.acceptFrame aes frame := by
  rcases enqueueCases aes s frame with ⟨_,_,result⟩ | ⟨error,result⟩
  · rw [result,Prod.mk.injEq,Except.ok.injEq] at accepted
    exact ⟨accepted.1.symm,accepted.2.symm⟩
  · rw [result] at accepted
    simp [rejectFrame] at accepted

theorem enqueueNew (aes : BlockCipher) (parameters : StreamParameters) (sequenceNumber : UInt16)
    {frame : EncodedFrame} (key : frame.dependency = .keyFrame) (nonempty : frame.data ≠ []) :
    (new parameters sequenceNumber).enqueueFrame aes frame =
      (.ok FrameId.first,(new parameters sequenceNumber).acceptFrame aes frame) := by
  have unsent : (new parameters sequenceNumber).lastMediaTimestamp = none := rfl
  have room : ¬ (new parameters sequenceNumber).inFlightIdSpan ≥ maxUnackedFrames := by
    show ¬ asUsize (FrameId.first-(FrameId.first-1+1)) ≥ maxUnackedFrames
    decide
  rw [enqueueFrame,if_neg (by simpa using nonempty),if_neg (fun first => first.2 key),unsent,if_neg (by simp),
    if_neg room]
  rfl

theorem acceptedPending (aes : BlockCipher) (s : StreamState) (frame : EncodedFrame) :
    (s.acceptFrame aes frame).find s.nextFrameId =
      some ⟨s.nextFrameId,frame.mediaTimestamp,frame.duration,(s.packetized aes frame).1⟩ :=
  Table.storeOwn (PendingFrame.mk s.nextFrameId frame.mediaTimestamp frame.duration (s.packetized aes frame).1)

theorem stepEffect (aes : BlockCipher) (s : StreamState) (operation : Operation) :
    Effect aes s (step aes s operation).1 (step aes s operation).2 := by
  cases operation with
  | enqueueFrame frame =>
    rcases enqueueCases aes s frame with ⟨nonempty,room,result⟩ | ⟨error,result⟩
    · simp only [step,result]
      exact .accepted frame nonempty room
    · simp only [step,result,rejectFrame]
      exact .quiet _ _ ⟨rfl,rfl,rfl,rfl,rfl,rfl,rfl,rfl,rfl⟩ rfl
  | castFeedback feedback => exact .processed feedback
  | nextPacket =>
    simp only [step,StreamState.nextPacket]
    split
    · rename_i queued rest head
      exact .retransmitted queued rest head
    · split
      · rename_i queued rest head
        exact .sent queued rest head
      · exact .quiet _ _ ⟨rfl,rfl,rfl,rfl,rfl,rfl,rfl,rfl,rfl⟩ rfl
  | recordPacketSent packetSize retransmission =>
    obtain ⟨_,_,_,written⟩ := s.recordPacketSentWrites packetSize retransmission
    simp only [step,written]
    exact .quiet _ _ ⟨rfl,rfl,rfl,rfl,rfl,rfl,rfl,rfl,rfl⟩ rfl
  | setTargetPlayoutDelay delay => exact .quiet _ _ ⟨rfl,rfl,rfl,rfl,rfl,rfl,rfl,rfl,rfl⟩ rfl
  | recordSenderReport compactNtp sentAt => exact .quiet _ _ ⟨rfl,rfl,rfl,rfl,rfl,rfl,rfl,rfl,rfl⟩ rfl
  | receiverReport report receivedAt =>
    obtain ⟨_,written⟩ := s.updateReceiverReportWrites report receivedAt
    simp only [step,written]
    exact .quiet _ _ ⟨rfl,rfl,rfl,rfl,rfl,rfl,rfl,rfl,rfl⟩ rfl
  | receiverReferenceTime report => exact .quiet _ _ ⟨rfl,rfl,rfl,rfl,rfl,rfl,rfl,rfl,rfl⟩ rfl

theorem slotValue {id : Int} (positive : 0 ≤ id) : ((slot id : Nat) : Int) = id % maxUnackedFrames := by
  simp only [slot,asUsize,maxUnackedFrames]
  rw [if_neg (by omega)]
  omega

theorem Window.span {s : StreamState} (w : Window s) : (s.inFlightIdSpan : Int) = s.nextFrameId-(s.checkpoint+1) := by
  have low := w.low
  simp only [inFlightIdSpan,asUsize]
  rw [if_neg (by omega)]
  omega

theorem Window.stored {s : StreamState} (w : Window s) {i : Fin maxUnackedFrames} {frame : PendingFrame}
    (stored : s.pending.get i = some frame) :
    s.checkpoint < frame.frameId ∧ frame.frameId < s.nextFrameId ∧ frame.frameId % maxUnackedFrames = i := by
  have found : s.find frame.frameId = some frame := Table.findEntry w.placed stored
  have bounds := w.inside frame.frameId (by simp [found])
  have start := w.start
  refine ⟨bounds.1,bounds.2,?_⟩
  rw [← slotValue (by omega),w.placed i frame stored]

/- Two identifiers of one slot are 120 apart, which the window does not span. -/
theorem Window.free {s : StreamState} (w : Window s) (room : s.inFlightIdSpan < maxUnackedFrames) :
    s.pending.get (slot s.nextFrameId) = none := by
  have span := w.span
  have low := w.low
  have start := w.start
  cases stored : s.pending.get (slot s.nextFrameId) with
  | none => rfl
  | some frame =>
    obtain ⟨above,below,congruent⟩ := w.stored stored
    rw [slotValue (by omega)] at congruent
    simp only [maxUnackedFrames] at congruent room
    omega

theorem acceptFind {s : StreamState} (w : Window s) (room : s.inFlightIdSpan < maxUnackedFrames)
    (aes : BlockCipher) (frame : EncodedFrame) (id : Int) : (s.acceptFrame aes frame).find id =
      if id = s.nextFrameId then
        some ⟨s.nextFrameId,frame.mediaTimestamp,frame.duration,(s.packetized aes frame).1⟩
      else s.find id :=
  Table.storeFind (PendingFrame.mk s.nextFrameId frame.mediaTimestamp frame.duration (s.packetized aes frame).1)
    (w.free room) id

theorem acceptInFlight {s : StreamState} (w : Window s) (room : s.inFlightIdSpan < maxUnackedFrames)
    (aes : BlockCipher) (frame : EncodedFrame) : (s.acceptFrame aes frame).inFlightCount = s.inFlightCount+1 :=
  Table.storeOccupied (PendingFrame.mk s.nextFrameId frame.mediaTimestamp frame.duration (s.packetized aes frame).1)
    (w.free room)

theorem acceptWindow {s : StreamState} (w : Window s) (room : s.inFlightIdSpan < maxUnackedFrames)
    (aes : BlockCipher) (frame : EncodedFrame) : Window (s.acceptFrame aes frame) := by
  have span := w.span
  have low := w.low
  have checkpoint : (s.acceptFrame aes frame).checkpoint = s.checkpoint := rfl
  have next : (s.acceptFrame aes frame).nextFrameId = s.nextFrameId+1 := rfl
  refine ⟨Table.storePlaced w.placed _,w.start,by omega,by omega,?_,w.ackedFits,w.nackedFits⟩
  intro id live
  rw [acceptFind w room] at live
  split at live
  · omega
  · have bounds := w.inside id live
    omega

theorem effectWindow {aes : BlockCipher} {s t : StreamState} {output : Output} (w : Window s)
    (effect : Effect aes s t output) : Window t := by
  cases effect with
  | accepted frame nonempty room => exact acceptWindow w room aes frame
  | processed feedback => exact (processed w feedback).window
  | retransmitted queued rest head => exact ⟨w.placed,w.start,w.low,w.high,w.inside,w.ackedFits,w.nackedFits⟩
  | sent queued rest head => exact ⟨w.placed,w.start,w.low,w.high,w.inside,w.ackedFits,w.nackedFits⟩
  | quiet t output same silent =>
    refine ⟨?_,?_,?_,?_,?_,?_,?_⟩
    · rw [Placed,same.pending]
      exact w.placed
    · rw [same.checkpoint]; exact w.start
    · rw [same.checkpoint,same.nextFrameId]; exact w.low
    · rw [same.checkpoint,same.nextFrameId]; exact w.high
    · intro id live
      rw [same.find] at live
      rw [same.checkpoint,same.nextFrameId]
      exact w.inside id live
    · rw [same.framesAcked]; exact w.ackedFits
    · rw [same.nackCount]; exact w.nackedFits

theorem runWindow (aes : BlockCipher) (parameters : StreamParameters) (sequenceNumber : UInt16)
    (operations : List Operation) : Window (run aes parameters sequenceNumber operations).1 :=
  Machine.runInvariant (step aes) (fun s operation w => effectWindow w (stepEffect aes s operation))
    (newWindow parameters sequenceNumber) operations

theorem ringBufferWindow (aes : BlockCipher) (parameters : StreamParameters) (sequenceNumber : UInt16)
    (operations : List Operation) :
    let s := (run aes parameters sequenceNumber operations).1
    s.checkpoint+1 ≤ s.nextFrameId ∧ s.nextFrameId ≤ s.checkpoint+1+120 ∧
    (∀ (i : Fin 120) (frame : PendingFrame), s.pending.get i = some frame →
      s.checkpoint < frame.frameId ∧ frame.frameId < s.nextFrameId ∧ frame.frameId % 120 = i) ∧
    (0 ≤ s.nextFrameId-(s.checkpoint+1) ∧ (s.inFlightIdSpan : Int) = s.nextFrameId-(s.checkpoint+1)) ∧
    s.inFlightCount ≤ 120 ∧
    ∀ (frame : EncodedFrame) (id : Int) (t : StreamState), s.enqueueFrame aes frame = (.ok id,t) →
      s.pending.get (slot id) = none := by
  intro s
  have w : Window s := runWindow aes parameters sequenceNumber operations
  refine ⟨w.low,w.high,fun i frame stored => w.stored stored,⟨by have low := w.low; omega,w.span⟩,
    Table.occupiedBound s.pending,?_⟩
  intro frame id t accepted
  rcases enqueueCases aes s frame with ⟨_,room,result⟩ | ⟨error,result⟩
  · rw [result] at accepted
    simp only [Prod.mk.injEq,Except.ok.injEq] at accepted
    rw [← accepted.1]
    exact w.free room
  · rw [result] at accepted
    simp [rejectFrame] at accepted

end Chromiacast.StreamState
