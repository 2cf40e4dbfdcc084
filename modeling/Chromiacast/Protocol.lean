import Chromiacast.FeedbackEncoding
import Chromiacast.StreamQueues

/-! A stream and its receiver over a network that loses, duplicates and reorders.
Whatever was once sent or emitted may arrive at any time, any number of times or
never. A datagram is tagged with the frame it was queued for; the receiver's own
reassembly is not part of the source, so the receiver is what its reports promise. -/
namespace Chromiacast
open Basis

namespace StreamState

def queueHead (s : StreamState) : Option QueuedPacket := (s.retransmitQueue ++ s.sendQueue).head?

theorem nextPacketHead (s : StreamState) :
    s.nextPacket.1.map OutboundPacket.packet = s.queueHead.map QueuedPacket.packet := by
  unfold nextPacket queueHead
  split
  · rename_i queued rest head
    simp [head]
  · rename_i drained
    split
    · rename_i queued rest head
      simp [drained,head]
    · rename_i empty
      simp [drained,empty]

theorem ackBitInside {data : Bytes} {i : Nat} (set : ackBit data i) : i < 8*data.length := by
  by_contra outside
  have absent : data.getD (i/8) 0 = 0 := List.getD_eq_default _ _ (by omega)
  rw [ackBit,absent] at set
  simp at set

def Operation.isCastFeedback : Operation → Bool
  | .castFeedback _ => true
  | _ => false

def Output.frames : Output → List (Int × List RtpPacket)
  | .accepted id _ packets => [(id,packets)]
  | _ => []

theorem silentFrames {output : Output} (silent : output.silent) : output.frames = [] := by
  cases output with
  | accepted id frame packets => simp [Output.silent] at silent
  | _ => rfl

theorem ownCheckpoint (aes : BlockCipher) (s : StreamState) {operation : Operation}
    (own : ¬ operation.isCastFeedback) : (step aes s operation).1.checkpoint = s.checkpoint := by
  cases operation with
  | castFeedback feedback => simp [Operation.isCastFeedback] at own
  | enqueueFrame frame =>
    rcases enqueueCases aes s frame with ⟨_,_,result⟩ | ⟨error,result⟩
    · simp only [step,result]
      rfl
    · simp only [step,result,rejectFrame]
  | nextPacket =>
    obtain ⟨_,_,written⟩ := s.nextPacketWrites
    simp only [step,written]
  | recordPacketSent packetSize retransmission =>
    obtain ⟨_,_,_,written⟩ := s.recordPacketSentWrites packetSize retransmission
    simp only [step,written]
  | receiverReport report receivedAt =>
    obtain ⟨_,written⟩ := s.updateReceiverReportWrites report receivedAt
    simp only [step,written]
  | setTargetPlayoutDelay delay => rfl
  | recordSenderReport compactNtp sentAt => rfl
  | receiverReferenceTime report => rfl

def Of (frames : List (Int × List RtpPacket)) (d : QueuedPacket) : Prop :=
  ∃ packets, (d.frameId,packets) ∈ frames ∧ d.packet ∈ packets

theorem Of.append {frames : List (Int × List RtpPacket)} {d : QueuedPacket} (known : Of frames d)
    (more : List (Int × List RtpPacket)) : Of (frames ++ more) d := by
  obtain ⟨packets,frame,member⟩ := known
  exact ⟨packets,List.mem_append_left _ frame,member⟩

structure Kept (s : StreamState) (frames : List (Int × List RtpPacket)) : Prop where
  window : Window s
  known : ∀ frame ∈ frames, frame.1 < s.nextFrameId
  stored : ∀ id pending, s.find id = some pending → (id,pending.packets) ∈ frames
  queued : ∀ d ∈ s.retransmitQueue ++ s.sendQueue, Of frames d

theorem Kept.belongs {s : StreamState} {frames : List (Int × List RtpPacket)} (k : Kept s frames) {d : QueuedPacket}
    (belongs : s.Belongs d) : Of frames d := by
  obtain ⟨pending,found,member⟩ := belongs
  exact ⟨pending.packets,k.stored _ _ found,member⟩

theorem Kept.accept {s : StreamState} {frames : List (Int × List RtpPacket)} (k : Kept s frames) (aes : BlockCipher)
    (frame : EncodedFrame) (room : s.inFlightIdSpan < maxUnackedFrames) :
    Kept (s.acceptFrame aes frame) (frames ++ [(s.nextFrameId,(s.packetized aes frame).1)]) := by
  have next : (s.acceptFrame aes frame).nextFrameId = s.nextFrameId+1 := rfl
  refine ⟨acceptWindow k.window room aes frame,?_,?_,?_⟩
  · intro other member
    rw [List.mem_append,List.mem_singleton] at member
    rcases member with before | rfl
    · have bound := k.known other before
      omega
    · rw [next]
      simp
  · intro id pending found
    rw [acceptFind k.window room] at found
    split at found
    · rename_i fresh
      cases Option.some.inj found
      simp [fresh]
    · exact List.mem_append_left _ (k.stored id pending found)
  · intro d member
    have split : d ∈ s.retransmitQueue ++ (s.sendQueue ++
      (s.packetized aes frame).1.map (QueuedPacket.mk s.nextFrameId)) := member
    rw [← List.append_assoc,List.mem_append] at split
    rcases split with before | now
    · exact (k.queued d before).append _
    · obtain ⟨packet,stored,rfl⟩ := List.mem_map.mp now
      exact ⟨_,by simp,stored⟩

theorem Kept.process {s : StreamState} {frames : List (Int × List RtpPacket)} (k : Kept s frames)
    (feedback : CastFeedback) : Kept (s.processCastFeedback feedback).1 frames := by
  have p := processed k.window feedback
  have next := congrArg Outgoing.nextFrameId p.outgoing
  have stored (id : Int) (pending : PendingFrame)
      (found : (s.processCastFeedback feedback).1.find id = some pending) : s.find id = some pending := by
    rw [p.found] at found
    split at found
    · contradiction
    · exact found
  refine ⟨p.window,?_,fun id pending found => k.stored id pending (stored id pending found),?_⟩
  · intro frame member
    exact lt_of_lt_of_eq (k.known frame member) next.symm
  · intro d member
    rw [p.sendQueue,p.retransmitQueue,List.mem_append,List.mem_append] at member
    rcases member with (before | now) | before
    · exact k.queued d (List.mem_append_left _ (List.mem_filter.mp before).1)
    · obtain ⟨nack,_,added⟩ := List.mem_flatMap.mp now
      obtain ⟨pending,found,packet⟩ := nackPacketsBelong added
      exact k.belongs ⟨pending,stored _ _ found,packet⟩
    · exact k.queued d (List.mem_append_right _ (List.mem_filter.mp before).1)

theorem effectFrames {aes : BlockCipher} {s t : StreamState} {output : Output} (effect : Effect aes s t output) :
    ∀ frame ∈ output.frames, frame.1 = s.nextFrameId := by
  cases effect with
  | accepted frame nonempty room => simp [Output.frames]
  | processed feedback => simp [Output.frames]
  | retransmitted queued rest head => simp [Output.frames]
  | sent queued rest head => simp [Output.frames]
  | quiet t output same silent => simp [silentFrames silent]

theorem effectKept {aes : BlockCipher} {s t : StreamState} {output : Output} {frames : List (Int × List RtpPacket)}
    (k : Kept s frames) (effect : Effect aes s t output) : Kept t (frames ++ output.frames) := by
  have window := effectWindow k.window effect
  cases effect with
  | accepted frame nonempty room => exact k.accept aes frame room
  | processed feedback =>
    simp only [Output.frames,List.append_nil]
    exact k.process feedback
  | retransmitted queued rest head =>
    simp only [Output.frames,List.append_nil]
    refine ⟨window,k.known,k.stored,fun d member => k.queued d ?_⟩
    rw [head]
    exact List.mem_cons_of_mem _ member
  | sent queued rest head =>
    simp only [Output.frames,List.append_nil]
    refine ⟨window,k.known,k.stored,fun d member => k.queued d ?_⟩
    rw [head]
    rcases List.mem_append.mp member with first | second
    · exact List.mem_append_left _ first
    · exact List.mem_append_right _ (List.mem_cons_of_mem _ second)
  | quiet t output same silent =>
    rw [silentFrames silent,List.append_nil]
    refine ⟨window,by rw [same.nextFrameId]; exact k.known,?_,?_⟩
    · intro id pending found
      exact k.stored id pending (by rw [← same.find]; exact found)
    · rw [same.retransmitQueue,same.sendQueue]
      exact k.queued

end StreamState

namespace Report

def acks (m : Report) (i : Nat) : Bool := m.ack.any (fun ack => StreamState.ackBit ack.data i)

def Retires (m : Report) (id : Int) : Prop := id ≤ m.checkpoint ∨ ∃ i, m.acks i ∧ id = m.checkpoint+2+(i : Nat)

theorem retiresIff (m : Report) (id : Int) : StreamState.retires m.checkpoint m.ack id ↔ m.Retires id := by
  rw [Retires,StreamState.retires,Bool.or_eq_true,decide_eq_true_eq,decide_eq_true_eq]
  refine or_congr Iff.rfl ?_
  cases same : m.ack with
  | none => simp [StreamState.ackedIds,acks,same]
  | some ack =>
    simp only [StreamState.ackedIds,Option.elim_some,StreamState.memBitvectorIds,acks,same,Option.any_some]

end Report

/- `frames` and `sent` remember every accepted frame and every datagram; `emitted` every
report. The receiver's state is what it has received and its checkpoint. -/
structure World where
  sender : StreamState
  frames : List (Int × List RtpPacket)
  sent : List QueuedPacket
  received : List QueuedPacket
  checkpoint : Int
  emitted : List Report
  deriving DecidableEq, Repr

inductive Action where
  | operate (operation : StreamState.Operation)
  | receive (datagram : QueuedPacket)
  | advance
  | emit (report : Report)
  | deliver (report : Report) (receivedAt : Nat)
  deriving DecidableEq, Repr

namespace World

def Complete (w : World) (id : Int) : Prop :=
  (∃ frame ∈ w.frames, frame.1 = id) ∧
    ∀ frame ∈ w.frames, frame.1 = id → ∀ packet ∈ frame.2, ⟨id,packet⟩ ∈ w.received

instance (w : World) (id : Int) : Decidable (w.Complete id) := inferInstanceAs (Decidable (_ ∧ _))

/- What the receiver may report: its checkpoint, complete frames in the bit vector, and
losses of incomplete frames up to the newest it has seen. -/
def Truthful (w : World) (m : Report) : Prop :=
  m.checkpoint = w.checkpoint ∧
  (∀ ack ∈ m.ack, ∀ i < 8*ack.data.length, StreamState.ackBit ack.data i → w.Complete (m.checkpoint+2+(i : Nat))) ∧
  ∀ l ∈ m.losses, m.checkpoint < l.frameId ∧ (∃ d ∈ w.received, l.frameId ≤ d.frameId) ∧ ¬ w.Complete l.frameId

instance (w : World) (m : Report) : Decidable (w.Truthful m) := inferInstanceAs (Decidable (_ ∧ _ ∧ _))

/- An action that is not possible changes nothing. The last guard is the one assumption
on the network: no report is delivered 256 frames late. -/
def step (aes : BlockCipher) (type : StreamType) (w : World) : Action → World
  | .operate operation =>
    if operation.isCastFeedback then w else
      let result := StreamState.step aes w.sender operation
      {w with
        sender := result.1
        frames := w.frames ++ result.2.frames
        sent := w.sent ++ if operation = .nextPacket then w.sender.queueHead.toList else []}
  | .receive datagram => if datagram ∈ w.sent then {w with received := w.received ++ [datagram]} else w
  | .advance => if w.Complete (w.checkpoint+1) then {w with checkpoint := w.checkpoint+1} else w
  | .emit report => if w.Truthful report then {w with emitted := w.emitted ++ [report]} else w
  | .deliver report receivedAt =>
    if report ∈ w.emitted ∧ w.sender.nextFrameId-256 ≤ report.checkpoint then
      {w with sender := (w.sender.receiveDatagram type (report.encode w.sender.sources) receivedAt).1}
    else w

def start (parameters : StreamParameters) (sequenceNumber : UInt16) : World :=
  ⟨StreamState.new parameters sequenceNumber,[],[],[],FrameId.first-1,[]⟩

def after (aes : BlockCipher) (type : StreamType) (parameters : StreamParameters) (sequenceNumber : UInt16)
    (actions : List Action) : World :=
  actions.foldl (step aes type) (start parameters sequenceNumber)

/- What stays true of a report however late it arrives. Its losses are close to its
checkpoint because the sender's window was when it was emitted. -/
structure Holds (w : World) (m : Report) : Prop where
  reached : m.checkpoint ≤ w.checkpoint
  acked : ∀ i, m.acks i → w.Complete (m.checkpoint+2+(i : Nat))
  named : ∀ l ∈ m.losses, m.checkpoint < l.frameId ∧ l.frameId ≤ m.checkpoint+maxUnackedFrames

structure Safe (w : World) : Prop where
  kept : w.sender.Kept w.frames
  sent : ∀ d ∈ w.sent, StreamState.Of w.frames d
  received : ∀ d ∈ w.received, d ∈ w.sent
  low : -1 ≤ w.checkpoint
  below : ∀ id, 0 ≤ id → id ≤ w.checkpoint → w.Complete id
  behind : w.sender.checkpoint ≤ w.checkpoint
  holds : ∀ m ∈ w.emitted, w.Holds m

theorem startSafe (parameters : StreamParameters) (sequenceNumber : UInt16) :
    Safe (start parameters sequenceNumber) where
  kept := ⟨StreamState.newWindow parameters sequenceNumber,by simp [start],
    by simp [start,StreamState.new,StreamState.find,Table.emptyFind],by simp [start,StreamState.new]⟩
  sent := by simp [start]
  received := by simp [start]
  low := by simp [start,FrameId.first]
  below := by
    intro id low high
    simp only [start,FrameId.first] at high
    omega
  behind := le_refl _
  holds := by simp [start]

theorem Safe.frameBelow {w : World} (safe : Safe w) {id : Int} (complete : w.Complete id) :
    id < w.sender.nextFrameId := by
  obtain ⟨⟨frame,member,rfl⟩,_⟩ := complete
  exact safe.kept.known frame member

theorem Safe.checkpointBelow {w : World} (safe : Safe w) : w.checkpoint < w.sender.nextFrameId := by
  have low := safe.kept.window.low
  have first := safe.kept.window.start
  by_cases some' : 0 ≤ w.checkpoint
  · exact safe.frameBelow (safe.below _ some' (le_refl _))
  · omega

theorem Safe.seenBelow {w : World} (safe : Safe w) {d : QueuedPacket} (seen : d ∈ w.received) :
    d.frameId < w.sender.nextFrameId := by
  obtain ⟨packets,frame,_⟩ := safe.sent d (safe.received d seen)
  exact safe.kept.known _ frame

theorem Complete.grow {w v : World} {id : Int} (complete : w.Complete id) {more : List (Int × List RtpPacket)}
    (frames : v.frames = w.frames ++ more) (other : ∀ frame ∈ more, frame.1 ≠ id)
    (received : ∀ d ∈ w.received, d ∈ v.received) : v.Complete id := by
  obtain ⟨⟨frame,member,same⟩,packets⟩ := complete
  refine ⟨⟨frame,by rw [frames]; exact List.mem_append_left _ member,same⟩,?_⟩
  intro frame' member' same' packet inside
  rw [frames,List.mem_append] at member'
  rcases member' with before | now
  · exact received _ (packets frame' before same' packet inside)
  · exact absurd same' (other frame' now)

theorem Holds.grow {w v : World} {m : Report} (holds : w.Holds m) (forward : w.checkpoint ≤ v.checkpoint)
    (grows : ∀ id, w.Complete id → v.Complete id) : v.Holds m :=
  ⟨holds.reached.trans forward,fun i set => grows _ (holds.acked i set),holds.named⟩

theorem Safe.operate {w : World} (safe : Safe w) (aes : BlockCipher) (type : StreamType)
    (operation : StreamState.Operation) : Safe (w.step aes type (.operate operation)) := by
  simp only [step]
  split
  · exact safe
  · rename_i own
    have effect := StreamState.stepEffect aes w.sender operation
    let v : World := {w with
      sender := (StreamState.step aes w.sender operation).1
      frames := w.frames ++ (StreamState.step aes w.sender operation).2.frames
      sent := w.sent ++ if operation = .nextPacket then w.sender.queueHead.toList else []}
    have grows (id : Int) (complete : w.Complete id) : v.Complete id := by
      refine complete.grow rfl ?_ (fun _ seen => seen)
      intro frame member
      have bound := safe.frameBelow complete
      have next := StreamState.effectFrames effect frame member
      omega
    refine ⟨StreamState.effectKept safe.kept effect,?_,
      fun d seen => List.mem_append_left _ (safe.received d seen),safe.low,
      fun id low high => grows id (safe.below id low high),?_,
      fun m emitted => (safe.holds m emitted).grow (le_refl _) grows⟩
    · intro d member
      rcases List.mem_append.mp member with before | now
      · exact (safe.sent d before).append _
      · refine (safe.kept.queued d ?_).append _
        split at now
        · exact List.mem_of_mem_head? (Option.mem_toList.mp now)
        · simp at now
    · exact (StreamState.ownCheckpoint aes w.sender own).trans_le safe.behind

theorem Safe.receive {w : World} (safe : Safe w) (aes : BlockCipher) (type : StreamType) (d : QueuedPacket) :
    Safe (w.step aes type (.receive d)) := by
  simp only [step]
  split
  · rename_i sent
    have grows (id : Int) (complete : w.Complete id) : Complete {w with received := w.received ++ [d]} id :=
      complete.grow (List.append_nil _).symm (by simp) (fun other seen => List.mem_append_left _ seen)
    refine ⟨safe.kept,safe.sent,?_,safe.low,fun id low high => grows id (safe.below id low high),safe.behind,
      fun m emitted => (safe.holds m emitted).grow (le_refl _) grows⟩
    intro other member
    rw [List.mem_append,List.mem_singleton] at member
    rcases member with before | rfl
    · exact safe.received other before
    · exact sent
  · exact safe

theorem Safe.advance {w : World} (safe : Safe w) (aes : BlockCipher) (type : StreamType) :
    Safe (w.step aes type .advance) := by
  simp only [step]
  split
  · rename_i complete
    have low := safe.low
    have behind := safe.behind
    have forward : w.checkpoint ≤ w.checkpoint+1 := by omega
    refine ⟨safe.kept,safe.sent,safe.received,low.trans forward,?_,behind.trans forward,
      fun m emitted => (safe.holds m emitted).grow forward (fun _ complete => complete)⟩
    intro id low high
    by_cases last : id = w.checkpoint+1
    · subst last
      exact complete
    · have high : id ≤ w.checkpoint+1 := high
      exact safe.below id low (by omega)
  · exact safe

theorem Safe.emit {w : World} (safe : Safe w) (aes : BlockCipher) (type : StreamType) (m : Report) :
    Safe (w.step aes type (.emit m)) := by
  simp only [step]
  split
  · rename_i truthful
    obtain ⟨checkpoint,acked,named⟩ := truthful
    refine ⟨safe.kept,safe.sent,safe.received,safe.low,safe.below,safe.behind,?_⟩
    intro other member
    rw [List.mem_append,List.mem_singleton] at member
    rcases member with before | rfl
    · exact (safe.holds other before).grow (le_refl _) (fun _ complete => complete)
    · refine ⟨checkpoint.le,?_,?_⟩
      · intro i set
        obtain ⟨ack,present,bit⟩ : ∃ ack, other.ack = some ack ∧ StreamState.ackBit ack.data i := by
          simpa [Report.acks,Option.any_eq_true] using set
        exact acked ack present i (StreamState.ackBitInside bit) bit
      · intro l member
        obtain ⟨above,⟨d,seen,newest⟩,_⟩ := named l member
        have below := safe.seenBelow seen
        have high := safe.kept.window.high
        have behind := safe.behind
        exact ⟨above,by omega⟩
  · exact safe

end World
end Chromiacast
