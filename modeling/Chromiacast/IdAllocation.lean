import Chromiacast.Basis.Serial
import Chromiacast.ControlLifecycle

/-! The order in which ids are handed out. The candidates run through the nonzero
words in a cycle, so a table with a free id is left after one round at most and an
id comes back only after all others were looked at. -/
namespace Chromiacast
open Basis

def following (candidate : UInt32) : UInt32 := max (candidate+1) 1

def nonzeroIds : Nat := 2^32-1

theorem followingToNat (candidate : UInt32) :
    (following candidate).toNat = if candidate.toNat = nonzeroIds then 1 else candidate.toNat+1 := by
  have bound := candidate.toNat_lt
  have sum : (candidate+1).toNat = (candidate.toNat+1) % 2^32 := by simp [UInt32.toNat_add]
  have one : (1 : UInt32).toNat = 1 := rfl
  have larger : following candidate = if candidate+1 ≤ 1 then 1 else candidate+1 := rfl
  have ids : nonzeroIds = 2^32-1 := rfl
  rw [larger]
  split
  · rename_i wrapped
    rw [UInt32.le_iff_toNat_le,sum,one] at wrapped
    split <;> omega
  · rename_i above
    rw [UInt32.le_iff_toNat_le,sum,one] at above
    rw [sum]
    split <;> omega

theorem followingNonzero (candidate : UInt32) : following candidate ≠ 0 := by
  intro zero
  have value := followingToNat candidate
  rw [zero] at value
  split at value <;> simp at value

theorem iterateToNat {candidate : UInt32} (nonzero : candidate ≠ 0) (n : Nat) :
    (following^[n] candidate).toNat = (candidate.toNat-1+n) % nonzeroIds+1 := by
  have positive : candidate.toNat ≠ 0 := fun zero => nonzero (UInt32.toNat_inj.mp zero)
  have bound := candidate.toNat_lt
  induction n with
  | zero =>
    simp only [Function.iterate_zero,id_eq,nonzeroIds]
    omega
  | succ n ih =>
    rw [Function.iterate_succ_apply',followingToNat,ih]
    split
    · rename_i last
      simp only [nonzeroIds] at last ⊢
      omega
    · rename_i before
      simp only [nonzeroIds] at before ⊢
      omega

theorem iterateNonzero {candidate : UInt32} (nonzero : candidate ≠ 0) (n : Nat) : following^[n] candidate ≠ 0 := by
  intro zero
  have value := iterateToNat nonzero n
  rw [zero] at value
  simp at value

theorem cycleNodup {candidate : UInt32} (nonzero : candidate ≠ 0) {n : Nat} (fits : n ≤ nonzeroIds) :
    (List.iterate following candidate n).Nodup := by
  rw [← List.range_map_iterate]
  refine List.Nodup.map_on ?_ List.nodup_range
  intro i hi j hj same
  have values := congrArg UInt32.toNat same
  rw [iterateToNat nonzero,iterateToNat nonzero] at values
  have left := List.mem_range.mp hi
  have right := List.mem_range.mp hj
  exact Serial.shiftInjective (by omega) (by omega) (Nat.succ.inj values)

theorem candidatesNodup (candidate : UInt32) {n : Nat} (fits : n ≤ nonzeroIds) :
    (List.iterate following candidate n).Nodup := by
  by_cases zero : candidate = 0
  · cases n with
    | zero => exact List.nodup_nil
    | succ n =>
      -- zero is looked at once, as the very first candidate
      have rest := cycleNodup (followingNonzero candidate) (Nat.le_of_succ_le fits)
      refine List.nodup_cons.mpr ⟨fun back => ?_,rest⟩
      obtain ⟨i,_,same⟩ := List.mem_iterate.mp back
      exact iterateNonzero (followingNonzero candidate) i (same.symm.trans zero)
  · exact cycleNodup zero fits

section Calls
variable {τ : Type}

def examinedFrom (pending : Requests UInt32 τ) : Nat → UInt32 → List UInt32
  | 0,_ => []
  | rounds+1,candidate =>
    candidate::if candidate ≠ 0 ∧ candidate ∉ pending then [] else examinedFrom pending rounds (following candidate)

def examined (next : UInt32) (pending : Requests UInt32 τ) : List UInt32 :=
  examinedFrom pending (pending.keys.length+2) next

def nonzeroKeys (pending : Requests UInt32 τ) : List UInt32 := pending.keys.filter (· ≠ 0)

theorem outOfRounds {pending : Requests UInt32 τ} {rounds : Nat} {candidate : UInt32}
    (stuck : allocateIdFrom pending rounds candidate = none) {n : Nat} (inside : n < rounds) :
    following^[n] candidate = 0 ∨ following^[n] candidate ∈ pending := by
  induction rounds generalizing candidate n with
  | zero => omega
  | succ rounds ih =>
    simp only [allocateIdFrom] at stuck
    split at stuck
    · cases stuck
    · rename_i taken
      cases n with
      | zero => tauto
      | succ n =>
        rw [Function.iterate_succ_apply]
        exact ih stuck (by omega)

/- Were all rounds used up, one more nonzero id than there are would stand in the table. -/
theorem allocateIdReturns (next : UInt32) {pending : Requests UInt32 τ}
    (room : (nonzeroKeys pending).length < nonzeroIds) : ∃ id after, allocateId next pending = some (id,after) := by
  cases handed : allocateId next pending with
  | some result => exact ⟨result.1,result.2,rfl⟩
  | none =>
    have keys : (nonzeroKeys pending).length ≤ pending.keys.length := List.length_filter_le _ _
    have nonzero := followingNonzero next
    have inside : List.iterate following (following next) ((nonzeroKeys pending).length+1) ⊆ nonzeroKeys pending := by
      intro id mem
      obtain ⟨n,small,rfl⟩ := List.mem_iterate.mp mem
      have taken := outOfRounds handed (show n+1 < pending.keys.length+2 by omega)
      rw [Function.iterate_succ_apply] at taken
      have present := taken.resolve_left (iterateNonzero nonzero n)
      exact List.mem_filter.mpr ⟨AList.mem_keys.mpr present,by simpa using iterateNonzero nonzero n⟩
    have count := ((cycleNodup nonzero room).subperm inside).length_le
    rw [List.length_iterate] at count
    omega

theorem examinedFromIterate {pending : Requests UInt32 τ} {rounds : Nat} {candidate id after : UInt32}
    (handed : allocateIdFrom pending rounds candidate = some (id,after)) :
    ∃ n, examinedFrom pending rounds candidate = List.iterate following candidate n ∧
      after = following^[n] candidate ∧ id ∈ List.iterate following candidate n := by
  induction rounds generalizing candidate with
  | zero => cases handed
  | succ rounds ih =>
    simp only [allocateIdFrom] at handed
    split at handed
    · rename_i fresh
      cases handed
      exact ⟨1,by simp [examinedFrom,fresh],rfl,by simp⟩
    · rename_i taken
      obtain ⟨n,looked,last,mem⟩ := ih handed
      refine ⟨n+1,?_,last,List.mem_cons_of_mem _ mem⟩
      rw [examinedFrom,if_neg taken,List.iterate]
      exact congrArg _ looked

structure Granted where
  id : UInt32
  examined : List UInt32
  deriving DecidableEq, Repr

def allocateIds (next : UInt32) : List (Requests UInt32 τ) → Option (List Granted)
  | [] => some []
  | pending::rest => do
    let (id,after) ← allocateId next pending
    let others ← allocateIds after rest
    some (⟨id,examined next pending⟩::others)

theorem allocateIdsIterate {next : UInt32} {calls : List (Requests UInt32 τ)} {given : List Granted}
    (handed : allocateIds next calls = some given) :
    ∃ n, given.flatMap Granted.examined = List.iterate following next n ∧
      (given.map Granted.id).Sublist (List.iterate following next n) := by
  induction calls generalizing next given with
  | nil =>
    cases Option.some.inj handed
    exact ⟨0,rfl,List.Sublist.refl _⟩
  | cons pending rest ih =>
    simp only [allocateIds,bind,Option.bind_eq_some_iff] at handed
    obtain ⟨⟨id,after⟩,first,others,later,last⟩ := handed
    cases Option.some.inj last
    obtain ⟨n,looked,moved,mem⟩ := examinedFromIterate first
    obtain ⟨m,lookedLater,ids⟩ := ih later
    subst moved
    refine ⟨n+m,?_,?_⟩
    · rw [List.iterate_add,List.flatMap_cons,lookedLater]
      exact congrArg (· ++ _) looked
    · rw [List.iterate_add]
      exact (List.singleton_sublist.mpr mem).append ids

theorem idAllocation (next : UInt32) :
    (∀ pending : Requests UInt32 τ, (nonzeroKeys pending).length < nonzeroIds →
        ∃ id after, allocateId next pending = some (id,after) ∧ id ≠ 0 ∧ id ∉ pending) ∧
      ∀ (calls : List (Requests UInt32 τ)) (given : List Granted), allocateIds next calls = some given →
        (given.flatMap Granted.examined).length < nonzeroIds → (given.map Granted.id).Nodup := by
  refine ⟨fun pending room => ?_,fun calls given handed few => ?_⟩
  · obtain ⟨id,after,handed⟩ := allocateIdReturns next room
    exact ⟨id,after,handed,allocateIdFresh handed⟩
  · obtain ⟨n,looked,ids⟩ := allocateIdsIterate handed
    rw [looked,List.length_iterate] at few
    exact ids.nodup (candidatesNodup next few.le)

end Calls

def waiting : Requests UInt32 Unit := AList.singleton 1 ⟨(),0⟩

theorem idAllocationWraps :
    (∃ id after, allocateId 0xFFFFFFFF waiting = some (id,after) ∧ id ≠ 0 ∧ id ∉ waiting) ∧
      allocateIds 0xFFFFFFFF [waiting,waiting] = some [⟨0xFFFFFFFF,[0xFFFFFFFF]⟩,⟨2,[1,2]⟩] ∧
      ([0xFFFFFFFF,2] : List UInt32).Nodup := by
  have calls : allocateIds 0xFFFFFFFF [waiting,waiting] = some [⟨0xFFFFFFFF,[0xFFFFFFFF]⟩,⟨2,[1,2]⟩] := by decide
  exact ⟨(idAllocation 0xFFFFFFFF).1 waiting (by decide),calls,(idAllocation 0xFFFFFFFF).2 _ _ calls (by decide)⟩

end Chromiacast
