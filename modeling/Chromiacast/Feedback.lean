import Chromiacast.StreamRelease

/-! One Cast feedback report applied to its stream: the body of the loop over
`cast_feedbacks` in `process_feedback` after the report has been routed. The
acknowledgement part comes first, then every NACK relative to the decoded checkpoint. -/
namespace Chromiacast.StreamState
open Basis

structure Retransmission where
  frameId : Int
  packetId : UInt16
  packetsQueued : Nat
  deriving DecidableEq, Repr

def handleNacks (checkpoint : Int) : StreamState → List PacketNack → StreamState × List Retransmission
  | s,[] => (s,[])
  | s,nack::rest =>
    let frameId := FrameId.expand (FrameId.truncate nack.frameId) checkpoint
    let handled := s.handleNack frameId nack.packetId
    let tail := handleNacks checkpoint handled.1 rest
    (tail.1,⟨frameId,nack.packetId,handled.2⟩::tail.2)

def decodeCheckpoint (s : StreamState) (feedback : CastFeedback) : Int :=
  FrameId.expandLte feedback.checkpointFrameId (s.nextFrameId-1)

def acknowledge (s : StreamState) (feedback : CastFeedback) : StreamState × List Int :=
  let checkpoint := s.decodeCheckpoint feedback
  let cumulative := s.acknowledgeUpTo checkpoint
  let selective := cumulative.1.acknowledgeBitvector checkpoint feedback.ackBitvector
  (selective.1,cumulative.2 ++ selective.2)

def processCastFeedback (s : StreamState) (feedback : CastFeedback) :
    StreamState × List Int × List Retransmission :=
  let delayed := s.updatePlayoutDelay feedback.playoutDelayMs
  let acknowledged := delayed.acknowledge feedback
  let nacked := handleNacks (s.decodeCheckpoint feedback) acknowledged.1 feedback.nacks
  (nacked.1,acknowledged.2,nacked.2)

def retires (checkpoint : Int) (ack : Option AckBitvector) (id : Int) : Bool :=
  id ≤ checkpoint || id ∈ ackedIds checkpoint ack

theorem decodedBelow (s : StreamState) (feedback : CastFeedback) : s.decodeCheckpoint feedback < s.nextFrameId := by
  have window := FrameId.expandLteWindow feedback.checkpointFrameId (s.nextFrameId-1)
  unfold decodeCheckpoint
  omega

theorem acknowledgeSpec {s : StreamState} (w : Window s) (feedback : CastFeedback) :
    Acknowledged s (retires (s.decodeCheckpoint feedback) feedback.ackBitvector) (s.acknowledge feedback).1
        (s.acknowledge feedback).2 ∧
      (s.acknowledge feedback).1.checkpoint = max s.checkpoint (s.decodeCheckpoint feedback) ∧
      Window (s.acknowledge feedback).1 := by
  have below := decodedBelow s feedback
  have low := w.low
  obtain ⟨first,moved⟩ := acknowledgeUpToSpec w (s.decodeCheckpoint feedback)
  have middle : Window (s.acknowledgeUpTo (s.decodeCheckpoint feedback)).1 := by
    refine first.window w (by omega) (by omega) ?_
    intro id atMost
    by_cases decoded : id ≤ s.decodeCheckpoint feedback
    · exact .inr (by simpa using decoded)
    · left
      by_contra live
      have above := (w.inside id (Option.isSome_iff_ne_none.mpr live)).1
      omega
  obtain ⟨second,stays⟩ := acknowledgeBitvectorSpec middle (s.decodeCheckpoint feedback) feedback.ackBitvector
  have next : (s.acknowledgeUpTo (s.decodeCheckpoint feedback)).1.nextFrameId = s.nextFrameId :=
    congrArg Outgoing.nextFrameId first.outgoing
  have final : (s.acknowledge feedback).1.checkpoint = _ := stays
  refine ⟨first.trans second,stays.trans moved,second.window middle (le_of_eq stays.symm) ?_ ?_⟩
  · have low := middle.low
    omega
  · intro id atMost
    left
    by_contra live
    have above := (middle.inside id (Option.isSome_iff_ne_none.mpr live)).1
    omega

def nackPackets (s : StreamState) (checkpoint : Int) (nack : PacketNack) : List QueuedPacket :=
  let frameId := FrameId.expand (FrameId.truncate nack.frameId) checkpoint
  (s.find frameId).elim [] (fun pending => (requested pending nack.packetId).map (QueuedPacket.mk frameId))

theorem handleNackState (s : StreamState) (checkpoint : Int) (nack : PacketNack) :
    (s.handleNack (FrameId.expand (FrameId.truncate nack.frameId) checkpoint) nack.packetId).1 =
      {s with
        nackCount := saturatingAdd s.nackCount 1
        retransmitQueue := s.retransmitQueue ++ s.nackPackets checkpoint nack} := by
  cases found : s.find (FrameId.expand (FrameId.truncate nack.frameId) checkpoint) with
  | none => simp [handleNack,nackPackets,found]
  | some pending => simp [handleNack,nackPackets,found]

theorem handleNacksState {s : StreamState} (fits : s.nackCount ≤ u64Max) (checkpoint : Int)
    (nacks : List PacketNack) : (handleNacks checkpoint s nacks).1 =
      {s with
        nackCount := saturatingAdd s.nackCount nacks.length
        retransmitQueue := s.retransmitQueue ++ nacks.flatMap (s.nackPackets checkpoint)} := by
  induction nacks generalizing s with
  | nil => simp [handleNacks,saturatingAddZero fits]
  | cons nack rest ih =>
    have fits' : saturatingAdd s.nackCount 1 ≤ u64Max := Nat.min_le_right ..
    simp only [handleNacks,handleNackState]
    rw [ih fits']
    have same (r : List QueuedPacket) (n : Nat) :
        nackPackets {s with nackCount := n, retransmitQueue := r} checkpoint = s.nackPackets checkpoint := rfl
    simp only [same,saturatingAddAssoc,List.flatMap_cons,List.append_assoc,List.length_cons,Nat.add_comm 1]

structure Processed (s : StreamState) (feedback : CastFeedback) (t : StreamState) (ids : List Int) : Prop where
  reported : ∀ id, id ∈ ids ↔ (s.find id).isSome ∧ retires (s.decodeCheckpoint feedback) feedback.ackBitvector id
  unique : ids.Nodup
  found : ∀ id, t.find id =
    if retires (s.decodeCheckpoint feedback) feedback.ackBitvector id then none else s.find id
  checkpoint : t.checkpoint = max s.checkpoint (s.decodeCheckpoint feedback)
  sendQueue : t.sendQueue = s.sendQueue.filter (fun queued => queued.frameId ∉ ids)
  retransmitQueue : t.retransmitQueue = s.retransmitQueue.filter (fun queued => queued.frameId ∉ ids) ++
    feedback.nacks.flatMap (t.nackPackets (s.decodeCheckpoint feedback))
  acked : t.framesAcked = saturatingAdd s.framesAcked ids.length
  inFlight : t.inFlightCount+ids.length = s.inFlightCount
  nacked : t.nackCount = saturatingAdd s.nackCount feedback.nacks.length
  outgoing : t.outgoing = s.outgoing
  window : Window t

theorem processed {s : StreamState} (w : Window s) (feedback : CastFeedback) :
    Processed s feedback (s.processCastFeedback feedback).1 (s.processCastFeedback feedback).2.1 := by
  let delayed := s.updatePlayoutDelay feedback.playoutDelayMs
  have wd : Window delayed := ⟨w.placed,w.start,w.low,w.high,w.inside,w.ackedFits,w.nackedFits⟩
  obtain ⟨a,moved,wa⟩ := acknowledgeSpec wd feedback
  have final := handleNacksState wa.nackedFits (s.decodeCheckpoint feedback) feedback.nacks
  have state : (s.processCastFeedback feedback).1 = _ := final
  rw [state]
  refine ⟨a.reported,a.unique,a.found,moved,a.sendQueue,?_,a.acked,a.inFlight,?_,a.outgoing,
    ⟨wa.placed,wa.start,wa.low,wa.high,wa.inside,wa.ackedFits,Nat.min_le_right ..⟩⟩
  · exact congrArg (· ++ _) a.retransmitQueue
  · exact congrArg (saturatingAdd · _) a.nacked

end Chromiacast.StreamState
