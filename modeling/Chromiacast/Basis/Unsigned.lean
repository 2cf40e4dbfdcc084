import Chromiacast.Basis.Bytes

/-! Unsigned numbers as big-endian bytes without a zero in front. Every number has one such form; its
width in bits is read from the first byte and the length. -/
namespace Basis

def Minimal (raw : Bytes) : Prop := raw.head? ≠ some 0

def dropZeros (raw : Bytes) : Bytes := raw.dropWhile (· == 0)

theorem readBeCons (first : UInt8) (rest : Bytes) : readBE (first::rest) = first.toNat*256^rest.length+readBE rest := by
  have split := readBeAppend [first] rest
  rwa [show readBE [first] = first.toNat by simp [readBE]] at split

theorem dropZerosMinimal (raw : Bytes) : Minimal (dropZeros raw) := by
  intro zero
  have first := List.head?_dropWhile_not (fun b : UInt8 => b == 0) raw
  rw [dropZeros] at zero
  simp [zero] at first

theorem readDropZeros (raw : Bytes) : readBE (dropZeros raw) = readBE raw := by
  induction raw with
  | nil => rfl
  | cons first rest ih =>
    by_cases zero : first = 0
    · subst zero
      rw [dropZeros,List.dropWhile_cons_of_pos (by simp),← dropZeros,ih,readBeCons]
      simp
    · rw [dropZeros,List.dropWhile_cons_of_neg (by simpa using zero)]

theorem readBeInjective {a b : Bytes} (length : a.length = b.length) (same : readBE a = readBE b) : a = b := by
  induction a using List.reverseRecOn generalizing b with
  | nil => exact (List.length_eq_zero_iff.mp length.symm).symm
  | append_singleton a x ih =>
    rcases List.eq_nil_or_concat b with rfl | ⟨b,y,rfl⟩
    · simp at length
    · rw [List.concat_eq_append] at length same ⊢
      rw [readBeSnoc,readBeSnoc] at same
      have left := x.toNat_lt
      have right := y.toNat_lt
      have last : x = y := UInt8.toNat_inj.mp (by omega)
      rw [ih (by simpa using length) (by omega),last]

theorem minimalBound {first : UInt8} {rest : Bytes} (nonzero : first ≠ 0) : 256^rest.length ≤ readBE (first::rest) := by
  have positive : 1 ≤ first.toNat := Nat.one_le_iff_ne_zero.mpr fun zero => nonzero (UInt8.toNat_inj.mp zero)
  rw [readBeCons]
  calc 256^rest.length = 1*256^rest.length := (Nat.one_mul _).symm
    _ ≤ first.toNat*256^rest.length := Nat.mul_le_mul_right _ positive
    _ ≤ first.toNat*256^rest.length+readBE rest := Nat.le_add_right _ _

theorem minimalLength {a b : Bytes} (minimal : Minimal b) (below : readBE b ≤ readBE a) : b.length ≤ a.length := by
  cases b with
  | nil => simp
  | cons first rest =>
    have nonzero : first ≠ 0 := fun zero => minimal (by simp [zero])
    have powers : 256^rest.length < 256^a.length := lt_of_le_of_lt ((minimalBound nonzero).trans below) (readBeBound a)
    exact (Nat.pow_lt_pow_iff_right (by norm_num)).mp powers

theorem minimalInjective {a b : Bytes} (left : Minimal a) (right : Minimal b) (same : readBE a = readBE b) : a = b :=
  readBeInjective (le_antisymm (minimalLength left same.le) (minimalLength right same.ge)) same

theorem minimalNil {raw : Bytes} (minimal : Minimal raw) : readBE raw = 0 ↔ raw = [] := by
  refine ⟨fun zero => ?_,fun empty => by rw [empty,readBeNil]⟩
  exact minimalInjective minimal (b := []) (by simp [Minimal]) zero

theorem minimalLog {first : UInt8} {rest : Bytes} (nonzero : first ≠ 0) :
    (readBE (first::rest)).log2 = 8*rest.length+first.toNat.log2 := by
  have positive : first.toNat ≠ 0 := fun zero => nonzero (UInt8.toNat_inj.mp zero)
  obtain ⟨low,high⟩ := (Nat.log2_eq_iff positive).mp rfl
  have width : (256 : Nat)^rest.length = 2^(8*rest.length) := by rw [Nat.pow_mul]
  have bound := readBeBound rest
  have value := readBeCons first rest
  have present : readBE (first::rest) ≠ 0 := by
    have least : 256^rest.length ≤ readBE (first::rest) := minimalBound nonzero
    have some : 0 < 256^rest.length := Nat.pow_pos (by norm_num)
    omega
  rw [width] at bound value
  rw [Nat.log2_eq_iff present,value]
  constructor
  · calc 2^(8*rest.length+first.toNat.log2) = 2^first.toNat.log2*2^(8*rest.length) := by rw [Nat.pow_add,Nat.mul_comm]
      _ ≤ first.toNat*2^(8*rest.length) := Nat.mul_le_mul_right _ low
      _ ≤ _ := Nat.le_add_right _ _
  · have next : first.toNat*2^(8*rest.length)+readBE rest < (first.toNat+1)*2^(8*rest.length) := by
      rw [Nat.add_mul,Nat.one_mul]
      exact Nat.add_lt_add_left bound _
    calc _ < (first.toNat+1)*2^(8*rest.length) := next
      _ ≤ 2^(first.toNat.log2+1)*2^(8*rest.length) := Nat.mul_le_mul_right _ high
      _ = 2^(8*rest.length+first.toNat.log2+1) := by rw [← Nat.pow_add]; congr 1; omega

def toBytesBe (n : Nat) : Bytes := if n = 0 then [0] else be (n.log2/8+1) n

theorem readToBytesBe (n : Nat) : readBE (toBytesBe n) = n := by
  by_cases zero : n = 0
  · simp [toBytesBe,zero,readBE]
  · rw [toBytesBe,if_neg zero]
    apply readBeExact
    calc n < 2^(n.log2+1) := Nat.lt_log2_self
      _ ≤ 2^(8*(n.log2/8+1)) := Nat.pow_le_pow_right (by norm_num) (by omega)
      _ = 256^(n.log2/8+1) := by rw [Nat.pow_mul]

theorem toBytesBeMinimal {n : Nat} (nonzero : n ≠ 0) : Minimal (toBytesBe n) := by
  intro starts
  have read := readToBytesBe n
  have sized : (toBytesBe n).length = n.log2/8+1 := by simp [toBytesBe,nonzero]
  cases form : toBytesBe n with
  | nil => simp [form] at starts
  | cons first rest =>
    rw [form] at starts read sized
    have zero : first = 0 := Option.some.inj starts
    have short : rest.length = n.log2/8 := by simpa using sized
    have bound := readBeBound rest
    have least : 2^n.log2 ≤ n := Nat.log2_self_le nonzero
    have powers : (256 : Nat)^rest.length ≤ 2^n.log2 := by
      rw [short,show (256 : Nat) = 2^8 from rfl,← Nat.pow_mul]
      exact Nat.pow_le_pow_right (by norm_num) (by omega)
    rw [readBeCons,zero] at read
    simp only [UInt8.toNat_zero,Nat.zero_mul,Nat.zero_add] at read
    omega

end Basis
