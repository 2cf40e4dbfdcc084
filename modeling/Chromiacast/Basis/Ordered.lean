import Mathlib

/-! Sorting by a key and dropping adjacent repetitions. Nothing is lost and the keys ascend. The
elements of one key keep the order they came in, so what is left of them is what dropping adjacent
repetitions leaves of them alone. -/
namespace Basis

variable {α β : Type*} [LinearOrder β]

/- The sort is stable. -/
theorem insertionSortClass (key : α → β) (l : List α) (k : β) :
    (l.insertionSort fun left right => key left ≤ key right).filter (fun y => key y = k) =
      l.filter fun y => key y = k := by
  have level : (l.filter fun y => key y = k).Pairwise fun left right => key left ≤ key right :=
    List.pairwise_of_forall_mem_list fun x hx y hy => by
      rw [of_decide_eq_true (List.mem_filter.mp hx).2,of_decide_eq_true (List.mem_filter.mp hy).2]
  have kept := (List.sublist_insertionSort level List.filter_sublist).filter fun y => key y = k
  simp only [List.filter_filter,Bool.and_self] at kept
  exact (kept.eq_of_length ((List.perm_insertionSort _ l).filter _).length_eq.symm).symm

theorem passedClass {key : α → β} {y : α} {l : List α} {k : β}
    (sorted : (y::l).Pairwise fun left right => key left ≤ key right) (passed : k < key y) :
    ((y::l).filter fun z => key z = k) = [] := by
  refine List.filter_eq_nil_iff.mpr fun z there back => ?_
  have above : key y ≤ key z := by
    rcases List.mem_cons.mp there with rfl | there
    · exact le_rfl
    · exact (List.pairwise_cons.mp sorted).1 z there
  exact absurd (of_decide_eq_true back) (passed.trans_le above).ne'

variable [DecidableEq α]

def sortDedup (key : α → β) (l : List α) : List α :=
  (l.insertionSort fun left right => key left ≤ key right).destutter (· ≠ ·)

theorem memDestutterFrom {x b : α} {l : List α} (inside : x ∈ b::l) : x ∈ l.destutter' (· ≠ ·) b := by
  induction l generalizing b with
  | nil => exact inside
  | cons a rest ih =>
    by_cases same : b = a
    · rw [List.destutter'_cons_neg rest (not_not.mpr same)]
      refine ih ?_
      rcases List.mem_cons.mp inside with here | later
      · exact List.mem_cons.mpr (.inl here)
      · rwa [same]
    · rw [List.destutter'_cons_pos rest same]
      rcases List.mem_cons.mp inside with here | later
      · exact List.mem_cons.mpr (.inl here)
      · exact List.mem_cons_of_mem _ (ih later)

theorem memDestutter {x : α} {l : List α} : x ∈ l.destutter (· ≠ ·) ↔ x ∈ l := by
  refine ⟨fun kept => (List.destutter_sublist _ l).subset kept,fun inside => ?_⟩
  cases l with
  | nil => exact inside
  | cons b rest => exact memDestutterFrom inside

variable {key : α → β} {l : List α}

theorem memSortDedup {x : α} : x ∈ sortDedup key l ↔ x ∈ l := by
  rw [sortDedup,memDestutter,List.mem_insertionSort]

theorem sortDedupSorted : (sortDedup key l).Pairwise fun left right => key left ≤ key right :=
  (List.pairwise_insertionSort (fun left right => key left ≤ key right) l).sublist (List.destutter_sublist _ _)

theorem sortDedupNonempty (some : l ≠ []) : sortDedup key l ≠ [] := by
  obtain ⟨x,inside⟩ := List.exists_mem_of_ne_nil l some
  exact List.ne_nil_of_mem (memSortDedup.mpr inside)

theorem destutterHead (x : α) (l : List α) : ∃ rest, l.destutter' (· ≠ ·) x = x::rest := by
  induction l with
  | nil => exact ⟨[],rfl⟩
  | cons y l ih =>
    by_cases same : x = y
    · rwa [List.destutter'_cons_neg l (not_not.mpr same)]
    · exact ⟨_,List.destutter'_cons_pos l same⟩

theorem destutterFromAppend (x : α) (l m : List α) :
    (l.destutter' (· ≠ ·) x ++ m).destutter (· ≠ ·) = (l ++ m).destutter' (· ≠ ·) x := by
  induction l generalizing x with
  | nil => rfl
  | cons y l ih =>
    by_cases same : x = y
    · rw [List.destutter'_cons_neg l (not_not.mpr same),List.cons_append,
        List.destutter'_cons_neg _ (not_not.mpr same),ih x]
    · obtain ⟨rest,front⟩ := destutterHead y l
      rw [List.destutter'_cons_pos l same,List.cons_append,List.destutter_cons',List.cons_append,
        List.destutter'_cons_pos _ same,← ih y,front,List.cons_append,List.destutter'_cons_pos _ same,
        List.destutter_cons']

theorem destutterAppend (l m : List α) :
    (l.destutter (· ≠ ·) ++ m).destutter (· ≠ ·) = (l ++ m).destutter (· ≠ ·) := by
  cases l with
  | nil => rfl
  | cons x l => exact destutterFromAppend x l m

theorem destutterFromClass {x : α} {l : List α} (k : β)
    (sorted : (x::l).Pairwise fun left right => key left ≤ key right) :
    (l.destutter' (· ≠ ·) x).filter (fun y => key y = k) =
      ((x::l).filter fun y => key y = k).destutter (· ≠ ·) := by
  induction l generalizing x with
  | nil => by_cases here : key x = k <;> simp [here]
  | cons y l ih =>
    obtain ⟨first,later⟩ := List.pairwise_cons.mp sorted
    by_cases same : x = y
    · subst same
      rw [List.destutter'_cons_neg l (not_not.mpr rfl),ih later]
      by_cases here : key x = k <;> simp [here,List.destutter_cons']
    · rw [List.destutter'_cons_pos l same]
      by_cases here : key x = k
      · rw [List.filter_cons_of_pos (by simpa using here),List.filter_cons_of_pos (by simpa using here),ih later]
        by_cases next : key y = k
        · rw [List.filter_cons_of_pos (by simpa using next),List.destutter_cons',List.destutter_cons',
            List.destutter'_cons_pos _ same]
        · have up : k ≤ key y := here ▸ first y List.mem_cons_self
          rw [passedClass later (up.lt_of_ne' next)]
          rfl
      · rw [List.filter_cons_of_neg (by simpa using here),List.filter_cons_of_neg (by simpa using here),ih later]

theorem sortDedupClass (k : β) : (sortDedup key l).filter (fun y => key y = k) =
    (l.filter fun y => key y = k).destutter (· ≠ ·) := by
  have sorted := List.pairwise_insertionSort (fun left right => key left ≤ key right) l
  rw [sortDedup,← insertionSortClass key l k]
  cases all : l.insertionSort fun left right => key left ≤ key right with
  | nil => rfl
  | cons x rest =>
    rw [all] at sorted
    exact destutterFromClass k sorted

theorem nodupClasses {γ : Type*} [DecidableEq γ] (key : α → γ) (l : List α) :
    l.Nodup ↔ ∀ k, (l.filter fun x => key x = k).Nodup := by
  refine ⟨fun nodup k => nodup.filter _,fun classes => List.nodup_iff_count_le_one.mpr fun x => ?_⟩
  rw [← List.count_filter (p := fun y => key y = key x) (by simp)]
  exact List.nodup_iff_count_le_one.mp (classes (key x)) x

end Basis
