import Chromiacast.Stream

/-! What acknowledgements do to a stream. Both acknowledgement loops release the
pending frames among a list of identifiers; `Retired` says which frames go, and
that exactly their queued packets go with them. -/
namespace Chromiacast.StreamState
open Basis

structure Outgoing where
  crypto : FrameCrypto
  packetizer : RtpPacketizer
  senderSyncSource : SyncSource
  receiverSyncSource : SyncSource
  rtpTimebase : UInt32
  adaptivePlayoutDelay : Bool
  pendingPlayoutDelay : Option Nat
  nextFrameId : Int
  lastMediaTimestamp : Option Nat
  lastReferenceTime : Option Nat
  lastRtpTimestamp : UInt32

def outgoing (s : StreamState) : Outgoing :=
  ⟨s.crypto,s.packetizer,s.senderSyncSource,s.receiverSyncSource,s.rtpTimebase,s.adaptivePlayoutDelay,
    s.pendingPlayoutDelay,s.nextFrameId,s.lastMediaTimestamp,s.lastReferenceTime,s.lastRtpTimestamp⟩

def Placed (s : StreamState) : Prop := Table.Placed PendingFrame.frameId slot s.pending

structure Retired (s : StreamState) (gone : Int → Bool) (t : StreamState) (ids : List Int) : Prop where
  reported : ∀ id, id ∈ ids ↔ (s.find id).isSome ∧ gone id
  unique : ids.Nodup
  placed : t.Placed
  found : ∀ id, t.find id = if gone id then none else s.find id
  sendQueue : t.sendQueue = s.sendQueue.filter (fun queued => queued.frameId ∉ ids)
  retransmitQueue : t.retransmitQueue = s.retransmitQueue.filter (fun queued => queued.frameId ∉ ids)
  inFlight : t.inFlightCount+ids.length = s.inFlightCount
  nacked : t.nackCount = s.nackCount
  outgoing : t.outgoing = s.outgoing

structure Acknowledged (s : StreamState) (gone : Int → Bool) (t : StreamState) (ids : List Int) : Prop
    extends Retired s gone t ids where
  acked : t.framesAcked = saturatingAdd s.framesAcked ids.length

theorem Retired.none {s : StreamState} {gone : Int → Bool} (placed : s.Placed)
    (absent : ∀ id, gone id → s.find id = none) : Retired s gone s [] where
  reported id := by
    cases h : gone id with
    | false => simp
    | true => simp [absent id h]
  unique := List.nodup_nil
  placed := placed
  found id := by
    cases h : gone id with
    | false => rfl
    | true => simp [absent id h]
  sendQueue := by simp
  retransmitQueue := by simp
  inFlight := rfl
  nacked := rfl
  outgoing := rfl

theorem filterAbsent (queue : List QueuedPacket) (a b : List Int) :
    (queue.filter (fun queued => queued.frameId ∉ a)).filter (fun queued => queued.frameId ∉ b) =
      queue.filter (fun queued => queued.frameId ∉ a ++ b) := by
  rw [List.filter_filter]
  congr 1
  funext queued
  simp [not_or,Bool.and_comm]

theorem Retired.trans {s t u : StreamState} {p q : Int → Bool} {a b : List Int}
    (first : Retired s p t a) (second : Retired t q u b) : Retired s (fun id => p id || q id) u (a ++ b) where
  reported id := by
    rw [List.mem_append,first.reported,second.reported,first.found]
    cases p id <;> simp
  unique := by
    refine List.Nodup.append first.unique second.unique ?_
    intro id left right
    have gone := ((first.reported id).mp left).2
    have still := ((second.reported id).mp right).1
    simp [first.found,gone] at still
  placed := second.placed
  found id := by
    rw [second.found,first.found]
    cases p id <;> cases q id <;> simp
  sendQueue := by rw [second.sendQueue,first.sendQueue,filterAbsent]
  retransmitQueue := by rw [second.retransmitQueue,first.retransmitQueue,filterAbsent]
  inFlight := by
    have one := first.inFlight
    have two := second.inFlight
    rw [List.length_append]
    omega
  nacked := second.nacked.trans first.nacked
  outgoing := second.outgoing.trans first.outgoing

theorem Retired.congr {s t : StreamState} {p q : Int → Bool} {ids : List Int} (r : Retired s p t ids)
    (same : ∀ id, (s.find id).isSome → p id = q id) : Retired s q t ids where
  reported id := by
    rw [r.reported]
    exact and_congr_right (fun live => by rw [same id live])
  unique := r.unique
  placed := r.placed
  found id := by
    rw [r.found]
    cases h : s.find id with
    | none => simp
    | some frame => rw [same id (by simp [h])]
  sendQueue := r.sendQueue
  retransmitQueue := r.retransmitQueue
  inFlight := r.inFlight
  nacked := r.nacked
  outgoing := r.outgoing

theorem releaseRetired {s : StreamState} {id : Int} (placed : s.Placed) (live : (s.find id).isSome) :
    Retired s (fun k => k = id) (s.release id) [id] := by
  obtain ⟨frame,found⟩ := Option.isSome_iff_exists.mp live
  refine ⟨?_,List.nodup_singleton id,Table.erasePlaced placed id,?_,?_,?_,Table.eraseOccupied found,rfl,rfl⟩
  · intro k
    simp only [List.mem_singleton,decide_eq_true_eq]
    constructor
    · rintro rfl
      exact ⟨live,rfl⟩
    · exact And.right
  · intro k
    simp only [decide_eq_true_eq]
    exact Table.eraseFind found k
  all_goals simp [release,cancelQueuedFrame]

theorem releaseAllRetired {s : StreamState} (placed : s.Placed) (ids : List Int) :
    Retired s (fun id => id ∈ ids) (s.releaseAll ids).1 (s.releaseAll ids).2 := by
  induction ids generalizing s with
  | nil => exact Retired.none placed (by simp)
  | cons id rest ih =>
    by_cases live : (s.find id).isSome
    · have head := releaseRetired placed live
      have both := head.trans (ih head.placed)
      simp only [releaseAll,if_pos live]
      exact both.congr (by simp)
    · have absent : s.find id = none := by simpa using live
      simp only [releaseAll,if_neg live]
      refine (ih placed).congr ?_
      intro k present
      have other : k ≠ id := by
        rintro rfl
        simp [absent] at present
      simp [other]

theorem releaseAllKeeps (s : StreamState) (ids : List Int) :
    (s.releaseAll ids).1.framesAcked = s.framesAcked ∧ (s.releaseAll ids).1.checkpoint = s.checkpoint := by
  induction ids generalizing s with
  | nil => exact ⟨rfl,rfl⟩
  | cons id rest ih =>
    simp only [releaseAll]
    split
    · exact ih (s.release id)
    · exact ih s

theorem memIdsThrough {first last id : Int} : id ∈ idsThrough first last ↔ first ≤ id ∧ id ≤ last := by
  simp only [idsThrough,List.mem_map,List.mem_range]
  constructor
  · rintro ⟨k,small,rfl⟩
    omega
  · intro bounds
    exact ⟨(id-first).toNat,by omega,by omega⟩

def ackBit (data : Bytes) (i : Nat) : Bool := (data.getD (i/8) 0).toNat.testBit (i%8)

theorem memBitvectorIds {checkpoint id : Int} {data : Bytes} :
    id ∈ bitvectorIds checkpoint data ↔ ∃ i, ackBit data i ∧ id = checkpoint+2+i := by
  simp only [bitvectorIds,List.mem_flatMap,List.mem_map,List.mem_filter,List.mem_range,Prod.exists,
    List.mem_zipIdx_iff_getElem?]
  constructor
  · rintro ⟨byte,index,stored,bit,⟨small,set⟩,rfl⟩
    refine ⟨index*8+bit,?_,by push_cast; ring⟩
    have high : (index*8+bit)/8 = index := by omega
    have low : (index*8+bit)%8 = bit := by omega
    simp [ackBit,high,low,List.getD_eq_getElem?_getD,stored,set]
  · rintro ⟨i,set,rfl⟩
    cases stored : data[i/8]? with
    | none => simp [ackBit,List.getD_eq_getElem?_getD,stored] at set
    | some byte =>
      refine ⟨byte,i/8,stored,i%8,⟨Nat.mod_lt i (by decide),?_⟩,by push_cast; omega⟩
      simpa [ackBit,List.getD_eq_getElem?_getD,stored] using set

structure Window (s : StreamState) : Prop where
  placed : s.Placed
  start : -1 ≤ s.checkpoint
  low : s.checkpoint+1 ≤ s.nextFrameId
  high : s.nextFrameId ≤ s.checkpoint+1+maxUnackedFrames
  inside : ∀ id, (s.find id).isSome → s.checkpoint < id ∧ id < s.nextFrameId
  ackedFits : s.framesAcked ≤ u64Max
  nackedFits : s.nackCount ≤ u64Max

theorem newWindow (parameters : StreamParameters) (sequenceNumber : UInt16) :
    Window (new parameters sequenceNumber) where
  placed := Table.emptyPlaced
  start := by simp [new,FrameId.first]
  low := by simp [new]
  high := by simp [new,maxUnackedFrames]
  inside id live := by simp [find,new,Table.emptyFind] at live
  ackedFits := Nat.zero_le _
  nackedFits := Nat.zero_le _

theorem saturatingAddZero {n : Nat} (fits : n ≤ u64Max) : saturatingAdd n 0 = n := by
  simp [saturatingAdd,fits]

theorem acknowledgeUpToSpec {s : StreamState} (w : Window s) (id : Int) :
    Acknowledged s (fun k => k ≤ id) (s.acknowledgeUpTo id).1 (s.acknowledgeUpTo id).2 ∧
      (s.acknowledgeUpTo id).1.checkpoint = max s.checkpoint id := by
  unfold acknowledgeUpTo
  by_cases stale : id < s.checkpoint+1
  · simp only [if_pos stale]
    refine ⟨⟨Retired.none w.placed ?_,(saturatingAddZero w.ackedFits).symm⟩,by omega⟩
    intro k gone
    by_contra live
    have above := (w.inside k (Option.isSome_iff_ne_none.mpr live)).1
    simp only [decide_eq_true_eq] at gone
    omega
  · simp only [if_neg stale]
    have released := (releaseAllRetired w.placed (idsThrough (s.checkpoint+1) id)).congr
      (q := fun k => k ≤ id) (fun k live => by
        have above := (w.inside k live).1
        simp only [memIdsThrough,decide_eq_decide]
        omega)
    have kept := releaseAllKeeps s (idsThrough (s.checkpoint+1) id)
    refine ⟨⟨⟨released.reported,released.unique,released.placed,released.found,released.sendQueue,
      released.retransmitQueue,released.inFlight,released.nacked,released.outgoing⟩,?_⟩,by simp; omega⟩
    simp [kept.1]

def ackedIds (checkpoint : Int) (ack : Option AckBitvector) : List Int :=
  ack.elim [] (fun ack => bitvectorIds checkpoint ack.data)

theorem acknowledgeBitvectorSpec {s : StreamState} (w : Window s) (checkpoint : Int) (ack : Option AckBitvector) :
    Acknowledged s (fun k => k ∈ ackedIds checkpoint ack) (s.acknowledgeBitvector checkpoint ack).1
        (s.acknowledgeBitvector checkpoint ack).2 ∧
      (s.acknowledgeBitvector checkpoint ack).1.checkpoint = s.checkpoint := by
  cases ack with
  | none =>
    have nothing : Retired s (fun k => k ∈ ackedIds checkpoint none) s [] :=
      Retired.none w.placed (by simp [ackedIds])
    exact ⟨⟨⟨nothing.reported,nothing.unique,nothing.placed,nothing.found,nothing.sendQueue,
      nothing.retransmitQueue,nothing.inFlight,nothing.nacked,nothing.outgoing⟩,
      (saturatingAddZero w.ackedFits).symm⟩,rfl⟩
  | some ack =>
    let noted := {s with lastAckFeedbackCount := some ack.feedbackCount, lastAckBitvectorBytes := some ack.data.length}
    let ids := (bitvectorIds checkpoint ack.data).filter (· < s.nextFrameId)
    have placed : noted.Placed := w.placed
    have released := (releaseAllRetired placed ids).congr
      (q := fun k => k ∈ ackedIds checkpoint (some ack)) (fun k live => by
        have below := (w.inside k live).2
        rw [decide_eq_decide]
        simp [ids,ackedIds,List.mem_filter,below])
    have kept := releaseAllKeeps noted ids
    refine ⟨⟨⟨released.reported,released.unique,released.placed,released.found,released.sendQueue,
      released.retransmitQueue,released.inFlight,released.nacked,released.outgoing⟩,?_⟩,kept.2⟩
    exact congrArg (saturatingAdd · _) kept.1

theorem Acknowledged.trans {s t u : StreamState} {p q : Int → Bool} {a b : List Int}
    (first : Acknowledged s p t a) (second : Acknowledged t q u b) :
    Acknowledged s (fun id => p id || q id) u (a ++ b) where
  toRetired := first.toRetired.trans second.toRetired
  acked := by rw [second.acked,first.acked,saturatingAddAssoc,List.length_append]

/- Retiring frames keeps the window when the checkpoint moves up inside it and every
frame at or below the new checkpoint is retired. -/
theorem Acknowledged.window {s t : StreamState} {gone : Int → Bool} {ids : List Int} (w : Window s)
    (r : Acknowledged s gone t ids) (forward : s.checkpoint ≤ t.checkpoint)
    (below : t.checkpoint < s.nextFrameId) (covered : ∀ id, id ≤ t.checkpoint → s.find id = none ∨ gone id) :
    Window t := by
  have next : t.nextFrameId = s.nextFrameId := congrArg Outgoing.nextFrameId r.outgoing
  have high := w.high
  have start := w.start
  refine ⟨r.placed,by omega,by omega,by omega,?_,?_,?_⟩
  · intro id live
    rw [r.found] at live
    split at live
    · contradiction
    · rename_i stays
      have bounds := w.inside id live
      refine ⟨?_,by omega⟩
      by_contra low
      rcases covered id (by omega) with absent | gone
      · simp [absent] at live
      · exact stays gone
  · rw [r.acked]
    exact Nat.min_le_right ..
  · rw [r.nacked]
    exact w.nackedFits

end Chromiacast.StreamState
