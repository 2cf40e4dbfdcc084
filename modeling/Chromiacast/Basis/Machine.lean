import Mathlib

/-! Deterministic machines with one output per step. A run keeps every output in
order; an invariant is shown once per step and then holds after every run. -/
namespace Basis.Machine

variable {σ ι ο : Type*} (step : σ → ι → σ × ο)

def run (s : σ) : List ι → σ × List ο
  | [] => (s,[])
  | i::rest =>
    let tail := run (step s i).1 rest
    (tail.1,(step s i).2::tail.2)

@[simp] theorem runNil (s : σ) : run step s [] = (s,[]) := rfl

@[simp] theorem runCons (s : σ) (i : ι) (rest : List ι) :
    run step s (i::rest) = ((run step (step s i).1 rest).1,(step s i).2::(run step (step s i).1 rest).2) := rfl

theorem runAppend (s : σ) (xs ys : List ι) :
    run step s (xs ++ ys) = ((run step (run step s xs).1 ys).1,
      (run step s xs).2 ++ (run step (run step s xs).1 ys).2) := by
  induction xs generalizing s with
  | nil => rfl
  | cons i rest ih => simp [ih]

theorem runSnoc (s : σ) (xs : List ι) (i : ι) :
    run step s (xs ++ [i]) = ((step (run step s xs).1 i).1,
      (run step s xs).2 ++ [(step (run step s xs).1 i).2]) := by
  rw [runAppend]
  rfl

theorem runInvariant {P : σ → Prop} (keep : ∀ s i, P s → P (step s i).1) {s : σ} (start : P s)
    (xs : List ι) : P (run step s xs).1 := by
  induction xs generalizing s with
  | nil => exact start
  | cons i rest ih => exact ih (keep s i start)

/- The relation may speak of everything output so far, so the induction is on
the run from its end: `keep` sees the trace of all earlier steps. -/
theorem runTrace {R : σ → List ο → Prop} {s : σ} (start : R s [])
    (keep : ∀ t trace i, R t trace → R (step t i).1 (trace ++ [(step t i).2])) (xs : List ι) :
    R (run step s xs).1 (run step s xs).2 := by
  induction xs using List.reverseRecOn with
  | nil => exact start
  | append_singleton rest i ih =>
    rw [runSnoc]
    exact keep _ _ i ih

theorem runLength (s : σ) (xs : List ι) : (run step s xs).2.length = xs.length := by
  induction xs generalizing s with
  | nil => rfl
  | cons i rest ih => simp [ih]

theorem runHistory {R : σ → List (ι × ο) → Prop} {s : σ} (start : R s [])
    (keep : ∀ t history i, R t history → R (step t i).1 (history ++ [(i,(step t i).2)])) (xs : List ι) :
    R (run step s xs).1 (xs.zip (run step s xs).2) := by
  induction xs using List.reverseRecOn with
  | nil => exact start
  | append_singleton rest i ih =>
    rw [runSnoc,List.zip_append (runLength step s rest).symm]
    exact keep _ _ i ih

/- An invariant that a step keeps only under a condition on its input holds after
every run whose steps all meet the condition. -/
theorem runGuarded {P : σ → Prop} {G : σ → ι → Prop} (keep : ∀ s i, P s → G s i → P (step s i).1) {s : σ}
    (start : P s) {xs : List ι} (guarded : ∀ done i rest, xs = done ++ i::rest → G (run step s done).1 i) :
    P (run step s xs).1 := by
  induction xs using List.reverseRecOn with
  | nil => exact start
  | append_singleton rest i ih =>
    rw [runSnoc]
    refine keep _ i (ih ?_) (guarded rest i [] rfl)
    intro done j tail split
    exact guarded done j (tail ++ [i]) (by rw [split,List.append_assoc]; rfl)

end Basis.Machine
