import Mathlib

/-! Serial numbers sent as a residue. A receiver of the residue picks, among the
integers congruent to it, the one nearest to a reference or the largest one not
above a reference; each choice is exact on a window of one modulus. Counters that
run on from starting points of a grid share no residue while the grid fits once. -/
namespace Basis.Serial

def nearest (modulus : Nat) (residue reference : Int) : Int :=
  reference + Int.bmod (residue - reference) modulus

def atMost (modulus : Nat) (residue reference : Int) : Int :=
  if nearest modulus residue reference > reference then nearest modulus residue reference - modulus
  else nearest modulus residue reference

theorem congruentEq {modulus : Nat} {x y : Int} (same : x % modulus = y % modulus)
    (above : x - y < modulus) (below : y - x < modulus) : x = y := by
  have zero : (x - y) % modulus = 0 := Int.emod_eq_emod_iff_emod_sub_eq_zero.mp same
  obtain ⟨k,hk⟩ := Int.dvd_of_emod_eq_zero zero
  have small : k = 0 := by
    rcases lt_trichotomy k 0 with neg | rfl | pos
    · nlinarith
    · rfl
    · nlinarith
  subst k
  omega

theorem nearestCongruent (modulus : Nat) (residue reference : Int) :
    nearest modulus residue reference % modulus = residue % modulus := by
  rw [nearest,Int.add_emod,Int.bmod_emod,← Int.add_emod,add_sub_cancel]

theorem nearestWindow {modulus : Nat} (positive : 0 < modulus) (residue reference : Int) :
    reference - modulus / 2 ≤ nearest modulus residue reference ∧
      nearest modulus residue reference < reference + (modulus + 1) / 2 := by
  have low := Int.le_bmod (x := residue - reference) positive
  have high := Int.bmod_lt (x := residue - reference) positive
  unfold nearest
  omega

theorem nearestExact {modulus : Nat} (positive : 0 < modulus) {x reference residue : Int}
    (same : x % modulus = residue % modulus) (low : reference - modulus / 2 ≤ x)
    (high : x < reference + (modulus + 1) / 2) : nearest modulus residue reference = x := by
  have window := nearestWindow positive residue reference
  exact congruentEq ((nearestCongruent modulus residue reference).trans same.symm) (by omega) (by omega)

theorem atMostCongruent (modulus : Nat) (residue reference : Int) :
    atMost modulus residue reference % modulus = residue % modulus := by
  have base := nearestCongruent modulus residue reference
  unfold atMost
  split
  · simpa [Int.sub_emod] using base
  · exact base

theorem atMostWindow {modulus : Nat} (positive : 0 < modulus) (residue reference : Int) :
    reference - modulus < atMost modulus residue reference ∧
      atMost modulus residue reference ≤ reference := by
  have window := nearestWindow positive residue reference
  unfold atMost
  split <;> omega

theorem atMostExact {modulus : Nat} (positive : 0 < modulus) {x reference residue : Int}
    (same : x % modulus = residue % modulus) (low : reference - modulus < x) (high : x ≤ reference) :
    atMost modulus residue reference = x := by
  have window := atMostWindow positive residue reference
  exact congruentEq ((atMostCongruent modulus residue reference).trans same.symm) (by omega) (by omega)

theorem shiftInjective {modulus c u v : Nat} (small : u < modulus) (small' : v < modulus)
    (same : (c+u) % modulus = (c+v) % modulus) : u = v := by
  have congruent : u ≡ v [MOD modulus] := Nat.ModEq.add_left_cancel' c same
  exact Nat.ModEq.eq_of_lt_of_lt congruent small small'

theorem gridInjective {modulus c pitch lines x y k j : Nat} (fits : lines*pitch ≤ modulus)
    (hx : x < lines) (hy : y < lines) (hk : k < pitch) (hj : j < pitch)
    (same : (c+x*pitch+k) % modulus = (c+y*pitch+j) % modulus) : x = y ∧ k = j := by
  have inside {a b : Nat} (ha : a < lines) (hb : b < pitch) : a*pitch+b < modulus := by
    calc a*pitch+b < (a+1)*pitch := by rw [Nat.succ_mul]; omega
      _ ≤ lines*pitch := Nat.mul_le_mul_right pitch ha
      _ ≤ modulus := fits
  have equal : x*pitch+k = y*pitch+j := by
    apply shiftInjective (inside hx hk) (inside hy hj) (c := c)
    simpa only [Nat.add_assoc] using same
  have positive : 0 < pitch := by omega
  have line (a b : Nat) (hb : b < pitch) : (a*pitch+b)/pitch = a := by
    rw [Nat.mul_comm,Nat.mul_add_div positive,Nat.div_eq_of_lt hb,Nat.add_zero]
  have lines : x = y := by rw [← line x k hk,equal,line y j hj]
  subst y
  exact ⟨rfl,by omega⟩

end Basis.Serial
