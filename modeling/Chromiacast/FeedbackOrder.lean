import Chromiacast.StreamRun

/-! Reports travel over UDP, so a stream may see two of them in either order, or one
of them twice. Retiring frames is a filter on the ring and on both queues, and
filters commute; a retransmission asked for before its frame is retired is
cancelled with it. -/
namespace Chromiacast.StreamState
open Basis

theorem decodeCheckpointCongr {s t : StreamState} (same : t.outgoing = s.outgoing) (feedback : CastFeedback) :
    t.decodeCheckpoint feedback = s.decodeCheckpoint feedback := by
  have next : t.nextFrameId = s.nextFrameId := congrArg Outgoing.nextFrameId same
  simp only [decodeCheckpoint,next]

theorem Processed.notRetired {s t : StreamState} {feedback : CastFeedback} {ids : List Int}
    (p : Processed s feedback t ids) {id : Int} {frame : PendingFrame} (found : s.find id = some frame) :
    t.find id = if id ∈ ids then none else some frame := by
  have reported := p.reported id
  rw [p.found,found]
  by_cases gone : retires (s.decodeCheckpoint feedback) feedback.ackBitvector id
  · rw [if_pos gone,if_pos (reported.mpr ⟨by simp [found],gone⟩)]
  · rw [if_neg gone,if_neg (fun member => gone (reported.mp member).2)]

theorem Processed.cancelsNack {s t : StreamState} {feedback : CastFeedback} {ids : List Int}
    (p : Processed s feedback t ids) (checkpoint : Int) (nack : PacketNack) :
    (s.nackPackets checkpoint nack).filter (fun queued => queued.frameId ∉ ids) =
      t.nackPackets checkpoint nack := by
  generalize named : FrameId.expand (FrameId.truncate nack.frameId) checkpoint = id
  cases found : s.find id with
  | none =>
    have absent : t.find id = none := by simp [p.found,found]
    simp [nackPackets,named,found,absent]
  | some frame =>
    have after := p.notRetired found
    by_cases member : id ∈ ids
    · simp [nackPackets,named,found,after,member]
    · simp [nackPackets,named,found,after,member]

theorem Processed.cancelsNacks {s t : StreamState} {feedback : CastFeedback} {ids : List Int}
    (p : Processed s feedback t ids) (checkpoint : Int) (nacks : List PacketNack) :
    (nacks.flatMap (s.nackPackets checkpoint)).filter (fun queued => queued.frameId ∉ ids) =
      nacks.flatMap (t.nackPackets checkpoint) := by
  rw [List.filter_flatMap]
  congr 1
  funext nack
  exact p.cancelsNack checkpoint nack

structure Both (s : StreamState) (a b : CastFeedback) (u : StreamState) (ids : List Int) : Prop where
  reported : ∀ id, id ∈ ids ↔ (s.find id).isSome ∧
    (retires (s.decodeCheckpoint a) a.ackBitvector id || retires (s.decodeCheckpoint b) b.ackBitvector id)
  found : ∀ id, u.find id = if retires (s.decodeCheckpoint a) a.ackBitvector id ||
    retires (s.decodeCheckpoint b) b.ackBitvector id then none else s.find id
  checkpoint : u.checkpoint = max s.checkpoint (max (s.decodeCheckpoint a) (s.decodeCheckpoint b))
  sendQueue : u.sendQueue = s.sendQueue.filter (fun queued => queued.frameId ∉ ids)
  retransmitQueue : u.retransmitQueue = s.retransmitQueue.filter (fun queued => queued.frameId ∉ ids) ++
    a.nacks.flatMap (u.nackPackets (s.decodeCheckpoint a)) ++ b.nacks.flatMap (u.nackPackets (s.decodeCheckpoint b))
  acked : u.framesAcked = saturatingAdd s.framesAcked ids.length
  inFlight : u.inFlightCount+ids.length = s.inFlightCount
  nacked : u.nackCount = saturatingAdd s.nackCount (a.nacks.length+b.nacks.length)
  window : Window u

theorem Processed.both {s t u : StreamState} {a b : CastFeedback} {first second : List Int}
    (p : Processed s a t first) (q : Processed t b u second) : Both s a b u (first ++ second) := by
  have decoded : t.decodeCheckpoint b = s.decodeCheckpoint b := decodeCheckpointCongr p.outgoing b
  refine ⟨?_,?_,?_,?_,?_,?_,?_,?_,q.window⟩
  · intro id
    rw [List.mem_append,p.reported,q.reported,p.found,decoded]
    cases retires (s.decodeCheckpoint a) a.ackBitvector id <;> simp
  · intro id
    rw [q.found,p.found,decoded]
    cases retires (s.decodeCheckpoint a) a.ackBitvector id <;>
      cases retires (s.decodeCheckpoint b) b.ackBitvector id <;> simp
  · rw [q.checkpoint,p.checkpoint,decoded,max_assoc]
  · rw [q.sendQueue,p.sendQueue,filterAbsent]
  · rw [q.retransmitQueue,p.retransmitQueue,List.filter_append,filterAbsent,q.cancelsNacks,decoded]
  · rw [q.acked,p.acked,saturatingAddAssoc,List.length_append]
  · have one := p.inFlight
    have two := q.inFlight
    rw [List.length_append]
    omega
  · rw [q.nacked,p.nacked,saturatingAddAssoc]

theorem Both.pendingEq {s u v : StreamState} {a b : CastFeedback} {x y : List Int}
    (l : Both s a b u x) (r : Both s b a v y) : u.pending = v.pending := by
  refine Table.ext l.window.placed r.window.placed ?_
  intro id
  have left : u.find id = _ := l.found id
  have right : v.find id = _ := r.found id
  rw [Bool.or_comm] at right
  exact left.trans right.symm

theorem filterCongrIds {x y : List Int} (same : ∀ id, id ∈ x ↔ id ∈ y) (queue : List QueuedPacket) :
    queue.filter (fun queued => queued.frameId ∉ x) = queue.filter (fun queued => queued.frameId ∉ y) := by
  simp only [same]

theorem Both.swap {s u v : StreamState} {a b : CastFeedback} {x y : List Int}
    (l : Both s a b u x) (r : Both s b a v y) :
    u.checkpoint = v.checkpoint ∧ u.pending = v.pending ∧ u.framesAcked = v.framesAcked ∧
      u.nackCount = v.nackCount ∧ u.sendQueue = v.sendQueue ∧ u.retransmitQueue.Perm v.retransmitQueue := by
  have pending := l.pendingEq r
  have same (id : Int) : id ∈ x ↔ id ∈ y := by
    rw [l.reported,r.reported,Bool.or_comm]
  have lengths : x.length = y.length := by
    have one := l.inFlight
    have two := r.inFlight
    simp only [inFlightCount,pending] at one two
    omega
  have nacks (checkpoint : Int) : u.nackPackets checkpoint = v.nackPackets checkpoint := by
    funext nack
    simp only [nackPackets,find,pending]
  refine ⟨?_,pending,?_,?_,?_,?_⟩
  · rw [l.checkpoint,r.checkpoint,max_comm (s.decodeCheckpoint a)]
  · rw [l.acked,r.acked,lengths]
  · rw [l.nacked,r.nacked,Nat.add_comm]
  · rw [l.sendQueue,r.sendQueue,filterCongrIds same]
  · rw [l.retransmitQueue,r.retransmitQueue,filterCongrIds same,nacks,nacks,List.append_assoc,List.append_assoc]
    exact List.perm_append_comm.append_left _

theorem acknowledgeAgain {s : StreamState} (w : Window s) (feedback : CastFeedback) :
    let once := (s.acknowledge feedback).1
    let twice := (once.acknowledge feedback).1
    twice.checkpoint = once.checkpoint ∧ twice.pending = once.pending ∧ twice.framesAcked = once.framesAcked ∧
      twice.sendQueue = once.sendQueue ∧ twice.retransmitQueue = once.retransmitQueue := by
  intro once twice
  obtain ⟨a,moved,w₁⟩ := acknowledgeSpec w feedback
  obtain ⟨b,again,w₂⟩ := acknowledgeSpec w₁ feedback
  have decoded : once.decodeCheckpoint feedback = s.decodeCheckpoint feedback :=
    decodeCheckpointCongr a.outgoing feedback
  have found (id : Int) : twice.find id = once.find id := by
    rw [b.found,decoded,a.found]
    cases retires (s.decodeCheckpoint feedback) feedback.ackBitvector id <;> simp
  have nothing : (once.acknowledge feedback).2 = [] := by
    rw [List.eq_nil_iff_forall_not_mem]
    intro id member
    obtain ⟨live,gone⟩ := (b.reported id).mp member
    rw [decoded] at gone
    simp [a.found,gone] at live
  refine ⟨?_,Table.ext w₂.placed w₁.placed found,?_,?_,?_⟩
  · rw [again,decoded,moved]
    omega
  · rw [b.acked,nothing]
    exact saturatingAddZero w₁.ackedFits
  · rw [b.sendQueue,nothing]
    simp [once]
  · rw [b.retransmitQueue,nothing]
    simp [once]

theorem feedbackOrderIndependent (aes : BlockCipher) (parameters : StreamParameters) (sequenceNumber : UInt16)
    (operations : List Operation) (a b : CastFeedback) :
    let s := (run aes parameters sequenceNumber operations).1
    let ab := ((s.processCastFeedback a).1.processCastFeedback b).1
    let ba := ((s.processCastFeedback b).1.processCastFeedback a).1
    let once := (s.acknowledge a).1
    let twice := (once.acknowledge a).1
    (ab.checkpoint = ba.checkpoint ∧ ab.pending = ba.pending ∧ ab.framesAcked = ba.framesAcked ∧
      ab.nackCount = ba.nackCount ∧ ab.sendQueue = ba.sendQueue ∧ ab.retransmitQueue.Perm ba.retransmitQueue) ∧
    (twice.checkpoint = once.checkpoint ∧ twice.pending = once.pending ∧ twice.framesAcked = once.framesAcked ∧
      twice.sendQueue = once.sendQueue ∧ twice.retransmitQueue = once.retransmitQueue) := by
  intro s ab ba once twice
  have w : Window s := runWindow aes parameters sequenceNumber operations
  have pa := processed w a
  have pb := processed w b
  have left := pa.both (processed pa.window b)
  have right := pb.both (processed pb.window a)
  exact ⟨left.swap right,acknowledgeAgain w a⟩

end Chromiacast.StreamState
