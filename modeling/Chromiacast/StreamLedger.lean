import Chromiacast.StreamRun

/-! What a whole run accepted and acknowledged. Accepted identifiers are consecutive
from zero, and every one of them is either still pending or acknowledged once. -/
namespace Chromiacast.StreamState
open Basis

def Output.accepts : Output → List (Int × EncodedFrame)
  | .accepted id frame _ => [(id,frame)]
  | _ => []

def Output.acknowledges : Output → List Int
  | .processed ids _ => ids
  | _ => []

def acceptedFrames (trace : List Output) : List (Int × EncodedFrame) := trace.flatMap Output.accepts

def acceptedIds (trace : List Output) : List Int := (acceptedFrames trace).map Prod.fst

def acknowledgedIds (trace : List Output) : List Int := trace.flatMap Output.acknowledges

theorem acceptedSnoc (trace : List Output) (output : Output) :
    acceptedIds (trace ++ [output]) = acceptedIds trace ++ output.accepts.map Prod.fst := by
  simp [acceptedIds,acceptedFrames]

theorem acknowledgedSnoc (trace : List Output) (output : Output) :
    acknowledgedIds (trace ++ [output]) = acknowledgedIds trace ++ output.acknowledges := by
  simp [acknowledgedIds]

theorem silentNothing {output : Output} (silent : output.silent) :
    output.accepts = [] ∧ output.acknowledges = [] := by
  cases output with
  | accepted id frame packets => simp [Output.silent] at silent
  | processed ids retransmissions => simp [Output.silent] at silent
  | rejected error => exact ⟨rfl,rfl⟩
  | outbound packet => exact ⟨rfl,rfl⟩
  | done => exact ⟨rfl,rfl⟩

structure Ledger (s : StreamState) (trace : List Output) : Prop where
  window : Window s
  accepted : acceptedIds trace = idsThrough 0 (s.nextFrameId-1)
  unique : (acknowledgedIds trace).Nodup
  known : ∀ id ∈ acknowledgedIds trace, id ∈ acceptedIds trace
  parted : ∀ id ∈ acceptedIds trace, (s.find id).isSome ↔ id ∉ acknowledgedIds trace
  acked : s.framesAcked = saturatingAdd 0 (acknowledgedIds trace).length
  total : s.nextFrameId = (acknowledgedIds trace).length+s.inFlightCount

theorem Ledger.memAccepted {s : StreamState} {trace : List Output} (l : Ledger s trace) {id : Int} :
    id ∈ acceptedIds trace ↔ 0 ≤ id ∧ id < s.nextFrameId := by
  rw [l.accepted,memIdsThrough]
  omega

theorem Ledger.pendingAccepted {s : StreamState} {trace : List Output} (l : Ledger s trace) {id : Int}
    (live : (s.find id).isSome) : id ∈ acceptedIds trace := by
  have bounds := l.window.inside id live
  have start := l.window.start
  exact l.memAccepted.mpr ⟨by omega,bounds.2⟩

theorem newLedger (parameters : StreamParameters) (sequenceNumber : UInt16) :
    Ledger (new parameters sequenceNumber) [] where
  window := newWindow parameters sequenceNumber
  accepted := rfl
  unique := List.nodup_nil
  known := by simp [acknowledgedIds]
  parted := by simp [acceptedIds,acceptedFrames]
  acked := rfl
  total := by simp [new,FrameId.first,acknowledgedIds,inFlightCount,Table.emptyOccupied]

theorem Ledger.unchanged {s t : StreamState} {trace : List Output} {output : Output} (l : Ledger s trace)
    (window : Window t) (pending : t.pending = s.pending) (next : t.nextFrameId = s.nextFrameId)
    (acked : t.framesAcked = s.framesAcked) (nothing : output.accepts = [] ∧ output.acknowledges = []) :
    Ledger t (trace ++ [output]) := by
  have ids : acceptedIds (trace ++ [output]) = acceptedIds trace := by simp [acceptedSnoc,nothing.1]
  have acks : acknowledgedIds (trace ++ [output]) = acknowledgedIds trace := by
    simp [acknowledgedSnoc,nothing.2]
  have found (id : Int) : t.find id = s.find id := by simp only [find,pending]
  have count : t.inFlightCount = s.inFlightCount := by simp only [inFlightCount,pending]
  refine ⟨window,?_,?_,?_,?_,?_,?_⟩
  · rw [ids,next]; exact l.accepted
  · rw [acks]; exact l.unique
  · rw [ids,acks]; exact l.known
  · intro id member
    rw [ids] at member
    rw [acks,found]
    exact l.parted id member
  · rw [acks,acked]; exact l.acked
  · rw [acks,next,count]; exact l.total

theorem idsThroughSnoc (last : Int) (low : -1 ≤ last) :
    idsThrough 0 (last+1) = idsThrough 0 last ++ [last+1] := by
  have count : (last+1+1-0).toNat = (last+1-0).toNat+1 := by omega
  rw [idsThrough,count,List.range_succ,List.map_append]
  simp only [idsThrough,List.map_cons,List.map_nil]
  congr 2
  omega

theorem Ledger.accept {s : StreamState} {trace : List Output} (l : Ledger s trace) (aes : BlockCipher)
    (frame : EncodedFrame) (room : s.inFlightIdSpan < maxUnackedFrames) (packets : List RtpPacket) :
    Ledger (s.acceptFrame aes frame) (trace ++ [.accepted s.nextFrameId frame packets]) := by
  have w := l.window
  have start := w.start
  have low := w.low
  have next : (s.acceptFrame aes frame).nextFrameId = s.nextFrameId+1 := rfl
  have ids : acceptedIds (trace ++ [.accepted s.nextFrameId frame packets]) =
      acceptedIds trace ++ [s.nextFrameId] := acceptedSnoc ..
  have acks : acknowledgedIds (trace ++ [.accepted s.nextFrameId frame packets]) = acknowledgedIds trace := by
    simp [acknowledgedSnoc,Output.acknowledges]
  refine ⟨acceptWindow w room aes frame,?_,?_,?_,?_,?_,?_⟩
  · have snoc := idsThroughSnoc (s.nextFrameId-1) (by omega)
    rw [Int.sub_add_cancel] at snoc
    rw [ids,l.accepted,next,Int.add_sub_cancel,snoc]
  · rw [acks]; exact l.unique
  · intro id member
    rw [acks] at member
    rw [ids]
    exact List.mem_append_left _ (l.known id member)
  · intro id member
    rw [acks,acceptFind w room]
    rw [ids,List.mem_append,List.mem_singleton] at member
    by_cases fresh : id = s.nextFrameId
    · have unseen : id ∉ acknowledgedIds trace := fun seen => by
        have bounds := l.memAccepted.mp (l.known id seen)
        omega
      rw [if_pos fresh]
      simp [unseen]
    · rw [if_neg fresh]
      exact l.parted id (member.resolve_right fresh)
  · rw [acks]; exact l.acked
  · have total := l.total
    rw [acks,next,acceptInFlight w room]
    push_cast
    omega

theorem Ledger.process {s : StreamState} {trace : List Output} (l : Ledger s trace) (feedback : CastFeedback) :
    Ledger (s.processCastFeedback feedback).1 (trace ++
      [.processed (s.processCastFeedback feedback).2.1 (s.processCastFeedback feedback).2.2]) := by
  have p := processed l.window feedback
  generalize (s.processCastFeedback feedback).2.2 = retransmissions
  revert p
  generalize (s.processCastFeedback feedback).1 = t
  generalize (s.processCastFeedback feedback).2.1 = released
  intro p
  have next : t.nextFrameId = s.nextFrameId := congrArg Outgoing.nextFrameId p.outgoing
  have ids : acceptedIds (trace ++ [.processed released retransmissions]) = acceptedIds trace := by
    simp [acceptedSnoc,Output.accepts]
  have acks : acknowledgedIds (trace ++ [.processed released retransmissions]) =
      acknowledgedIds trace ++ released := acknowledgedSnoc ..
  refine ⟨p.window,?_,?_,?_,?_,?_,?_⟩
  · rw [ids,next]; exact l.accepted
  · rw [acks]
    refine List.Nodup.append l.unique p.unique ?_
    intro id before now
    have live := ((p.reported id).mp now).1
    exact (l.parted id (l.pendingAccepted live)).mp live before
  · intro id member
    rw [acks,List.mem_append] at member
    rw [ids]
    rcases member with before | now
    · exact l.known id before
    · exact l.pendingAccepted ((p.reported id).mp now).1
  · intro id member
    rw [ids] at member
    have before := l.parted id member
    rw [acks,List.mem_append,p.reported,p.found,before]
    split
    · rename_i gone
      simp only [gone,and_true,not_or,not_not]
      simp
    · rename_i stays
      simp [stays,before]
  · rw [acks,p.acked,l.acked,saturatingAddAssoc,List.length_append]
  · have total := l.total
    have count := p.inFlight
    rw [acks,next,List.length_append]
    push_cast
    omega

theorem effectLedger {aes : BlockCipher} {s t : StreamState} {trace : List Output} {output : Output}
    (l : Ledger s trace) (effect : Effect aes s t output) : Ledger t (trace ++ [output]) := by
  have window := effectWindow l.window effect
  cases effect with
  | accepted frame nonempty room => exact l.accept aes frame room _
  | processed feedback => exact l.process feedback
  | retransmitted queued rest head => exact l.unchanged window rfl rfl rfl ⟨rfl,rfl⟩
  | sent queued rest head => exact l.unchanged window rfl rfl rfl ⟨rfl,rfl⟩
  | quiet t output same silent =>
    exact l.unchanged window same.pending same.nextFrameId same.framesAcked (silentNothing silent)

theorem runLedger (aes : BlockCipher) (parameters : StreamParameters) (sequenceNumber : UInt16)
    (operations : List Operation) :
    Ledger (run aes parameters sequenceNumber operations).1 (run aes parameters sequenceNumber operations).2 :=
  Machine.runTrace (step aes) (newLedger parameters sequenceNumber)
    (fun s _ operation l => effectLedger l (stepEffect aes s operation)) operations

/- The third conjunct takes a report as the next operation of the run, so it speaks of
every report of every run: what it acknowledges was accepted before. -/
theorem acknowledgedOnce (aes : BlockCipher) (parameters : StreamParameters) (sequenceNumber : UInt16)
    (operations : List Operation) :
    let reached := run aes parameters sequenceNumber operations
    (reached.1.framesAcked < u64Max →
      reached.1.nextFrameId = reached.1.framesAcked+reached.1.inFlightCount) ∧
    (acknowledgedIds reached.2).Nodup ∧
    (∀ (feedback : CastFeedback), ∀ id ∈ (reached.1.processCastFeedback feedback).2.1, id ∈ acceptedIds reached.2) ∧
    ∀ id ∈ acceptedIds reached.2,
      ((reached.1.find id).isSome ∨ id ∈ acknowledgedIds reached.2) ∧
      ¬ ((reached.1.find id).isSome ∧ id ∈ acknowledgedIds reached.2) := by
  intro reached
  have l : Ledger reached.1 reached.2 := runLedger aes parameters sequenceNumber operations
  refine ⟨?_,l.unique,?_,?_⟩
  · intro below
    have total := l.total
    have acked := l.acked
    simp only [saturatingAdd] at acked
    omega
  · intro feedback id member
    exact l.pendingAccepted (((processed l.window feedback).reported id).mp member).1
  · intro id member
    have parted := l.parted id member
    by_cases live : (reached.1.find id).isSome
    · exact ⟨.inl live,fun both => parted.mp live both.2⟩
    · exact ⟨.inr (not_not.mp (mt parted.mpr live)),fun both => live both.1⟩

theorem effectCrypto {aes : BlockCipher} {s t : StreamState} {output : Output} (w : Window s)
    (effect : Effect aes s t output) : t.crypto = s.crypto := by
  cases effect with
  | accepted frame nonempty room => rfl
  | processed feedback => exact congrArg Outgoing.crypto (processed w feedback).outgoing
  | retransmitted queued rest head => rfl
  | sent queued rest head => rfl
  | quiet t output same silent => exact same.crypto

theorem runCrypto (aes : BlockCipher) (parameters : StreamParameters) (sequenceNumber : UInt16)
    (operations : List Operation) :
    (run aes parameters sequenceNumber operations).1.crypto = ⟨parameters.aesKey,parameters.aesIvMask⟩ :=
  (Machine.runInvariant (P := fun s => Window s ∧ s.crypto = ⟨parameters.aesKey,parameters.aesIvMask⟩) (step aes)
    (fun s operation h => ⟨effectWindow h.1 (stepEffect aes s operation),
      (effectCrypto h.1 (stepEffect aes s operation)).trans h.2⟩)
    ⟨newWindow parameters sequenceNumber,rfl⟩ operations).2

theorem idsThroughNodup (first last : Int) : (idsThrough first last).Nodup := by
  refine List.Nodup.map ?_ List.nodup_range
  intro a b same
  simpa using same

theorem Ledger.acceptedUnique {s : StreamState} {trace : List Output} (l : Ledger s trace) :
    (acceptedFrames trace).Pairwise fun a b => a.1 ≠ b.1 := by
  have nodup : (acceptedIds trace).Nodup := by
    rw [l.accepted]
    exact idsThroughNodup ..
  exact List.pairwise_map.mp nodup

theorem Ledger.acceptedBelow {s : StreamState} {trace : List Output} (l : Ledger s trace) {entry : Int × EncodedFrame}
    (member : entry ∈ acceptedFrames trace) : 0 ≤ entry.1 ∧ entry.1 < (acceptedFrames trace).length := by
  have inside := l.memAccepted.mp (List.mem_map_of_mem member)
  have count : (acceptedFrames trace).length = (s.nextFrameId-1+1-0).toNat := by
    have lengths := congrArg List.length l.accepted
    simpa [acceptedIds,idsThrough] using lengths
  omega

def exampleParameters : StreamParameters :=
  ⟨1,2,97,48000,millis 400,true,Vector.replicate 16 7,Vector.replicate 16 9,1472,roomIpv4⟩

end Chromiacast.StreamState
