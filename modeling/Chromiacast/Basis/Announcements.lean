import Mathlib

/-! Announcements and withdrawals. Every announcement has an owner, and a withdrawal
takes back all that its owner has announced before; what is left stands. -/
namespace Basis.Announcements

variable {ι α ν : Type*} [DecidableEq ν] (announced : ι → Option α) (withdrawn : ι → Option ν) (owner : α → ν)

def stand (live : List α) (i : ι) : List α :=
  live.filter (fun a => withdrawn i ≠ some (owner a)) ++ (announced i).toList

def standing (inputs : List ι) : List α := inputs.foldl (stand announced withdrawn owner) []

variable {announced withdrawn owner}

theorem standingSnoc (inputs : List ι) (i : ι) : standing announced withdrawn owner (inputs ++ [i]) =
    stand announced withdrawn owner (standing announced withdrawn owner inputs) i := by
  simp [standing]

theorem memStand {live : List α} {i : ι} {a : α} : a ∈ stand announced withdrawn owner live i ↔
    a ∈ live ∧ withdrawn i ≠ some (owner a) ∨ announced i = some a := by
  simp [stand]

theorem memStanding {inputs : List ι} {a : α} : a ∈ standing announced withdrawn owner inputs ↔
    ∃ before i after, inputs = before ++ i::after ∧ announced i = some a ∧
      ∀ j ∈ after, withdrawn j ≠ some (owner a) := by
  induction inputs using List.reverseRecOn with
  | nil => simp [standing]
  | append_singleton inputs last ih =>
    rw [standingSnoc,memStand,ih]
    constructor
    · rintro (⟨⟨before,i,after,rfl,said,kept⟩,last'⟩ | said)
      · refine ⟨before,i,after ++ [last],by simp,said,fun j inside => ?_⟩
        rcases List.mem_append.mp inside with inside | inside
        · exact kept j inside
        · rw [List.mem_singleton.mp inside]
          exact last'
      · exact ⟨inputs,last,[],rfl,said,by simp⟩
    · rintro ⟨before,i,after,split,said,kept⟩
      rcases List.eq_nil_or_concat after with rfl | ⟨after,j,rfl⟩
      · obtain ⟨_,same⟩ := List.append_inj' split rfl
        cases List.head_eq_of_cons_eq same
        exact .inr said
      · rw [List.concat_eq_append,← List.cons_append,← List.append_assoc] at split
        obtain ⟨front,same⟩ := List.append_inj' split rfl
        cases List.head_eq_of_cons_eq same
        refine .inl ⟨⟨before,i,after,front,said,fun k inside => kept k (by simp [inside])⟩,kept last (by simp)⟩

end Basis.Announcements
