import Mathlib

/-! Where a machine without outputs can be brought by inputs of one kind. An invariant of
those inputs holds of all that is reached; a rank that can always be lowered reaches zero. -/
namespace Basis

variable {σ ι : Type*} {step : σ → ι → σ} {allowed : ι → Prop} {s t u : σ}

def Reaches (step : σ → ι → σ) (allowed : ι → Prop) (s t : σ) : Prop :=
  ∃ inputs : List ι, (∀ i ∈ inputs, allowed i) ∧ inputs.foldl step s = t

namespace Reaches

theorem refl (s : σ) : Reaches step allowed s s := ⟨[],by simp,rfl⟩

theorem all {inputs : List ι} (may : ∀ i ∈ inputs, allowed i) (s : σ) :
    Reaches step allowed s (inputs.foldl step s) := ⟨inputs,may,rfl⟩

theorem trans (first : Reaches step allowed s t) (second : Reaches step allowed t u) :
    Reaches step allowed s u := by
  obtain ⟨xs,may,rfl⟩ := first
  obtain ⟨ys,may',rfl⟩ := second
  refine ⟨xs ++ ys,fun i member => ?_,List.foldl_append⟩
  rcases List.mem_append.mp member with left | right
  · exact may i left
  · exact may' i right

theorem keeps {P : σ → Prop} (keep : ∀ s i, allowed i → P s → P (step s i))
    (reached : Reaches step allowed s t) (start : P s) : P t := by
  obtain ⟨inputs,may,rfl⟩ := reached
  induction inputs generalizing s with
  | nil => exact start
  | cons i rest ih =>
    exact ih (keep s i (may i List.mem_cons_self) start) fun j member => may j (List.mem_cons_of_mem _ member)

theorem lowers {P : σ → Prop} (rank : σ → Nat)
    (lower : ∀ s, P s → rank s ≠ 0 → ∃ t, Reaches step allowed s t ∧ P t ∧ rank t < rank s) (start : P s) :
    ∃ t, Reaches step allowed s t ∧ P t ∧ rank t = 0 := by
  induction n : rank s using Nat.strong_induction_on generalizing s with
  | h n ih =>
    by_cases done : rank s = 0
    · exact ⟨s,refl s,start,done⟩
    · obtain ⟨t,reached,kept,less⟩ := lower s start done
      obtain ⟨u,further,last⟩ := ih (rank t) (by omega) kept rfl
      exact ⟨u,reached.trans further,last⟩

end Reaches

end Basis
