import Chromiacast.Basis.Machine

/-! Runs of a machine seen through labels. A step shows some labels, and a run shows those of its
steps one after the other; a part of a larger machine is followed by the runs it can be seen to make. -/
namespace Basis.Machine

variable {σ ι ο κ : Type*} {step : σ → ι → σ × ο} {label : ι → ο → List κ}

def shown (step : σ → ι → σ × ο) (label : ι → ο → List κ) (s : σ) (inputs : List ι) : List κ :=
  (inputs.zip (run step s inputs).2).flatMap fun entry => label entry.1 entry.2

def Traces (step : σ → ι → σ × ο) (label : ι → ο → List κ) (s : σ) (labels : List κ) (t : σ) : Prop :=
  ∃ inputs, (run step s inputs).1 = t ∧ shown step label s inputs = labels

namespace Traces

theorem refl (s : σ) : Traces step label s [] s := ⟨[],rfl,rfl⟩

theorem one (s : σ) (i : ι) : Traces step label s (label i (step s i).2) (step s i).1 :=
  ⟨[i],rfl,by simp [shown]⟩

theorem trans {s t u : σ} {first second : List κ} (before : Traces step label s first t)
    (after : Traces step label t second u) : Traces step label s (first ++ second) u := by
  obtain ⟨xs,rfl,rfl⟩ := before
  obtain ⟨ys,rfl,rfl⟩ := after
  refine ⟨xs ++ ys,by rw [runAppend],?_⟩
  rw [shown,runAppend,List.zip_append (runLength step s xs).symm,List.flatMap_append]
  rfl

theorem folds {α : Type*} {view : σ → α} {apply : α → κ → α}
    (steps : ∀ s i, view (step s i).1 = (label i (step s i).2).foldl apply (view s)) {s t : σ} {labels : List κ}
    (traces : Traces step label s labels t) : view t = labels.foldl apply (view s) := by
  obtain ⟨inputs,rfl,rfl⟩ := traces
  induction inputs generalizing s with
  | nil => rfl
  | cons i rest ih =>
    rw [runCons,ih,steps,shown,shown,runCons,List.zip_cons_cons,List.flatMap_cons,List.foldl_append]

end Traces

end Basis.Machine
