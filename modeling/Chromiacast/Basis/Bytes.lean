import Mathlib

/-! Big-endian byte strings of any width. Encoding keeps the value modulo the
width; decoding is its inverse and turns bytewise XOR into XOR of values. -/
namespace Basis

abbrev Bytes := List UInt8

def be : Nat → Nat → Bytes
  | 0,_ => []
  | width+1,value => be width (value/256) ++ [UInt8.ofNat value]

def readBE (raw : Bytes) : Nat := raw.foldl (fun n b => n*256+b.toNat) 0

@[simp] theorem beLength (width value : Nat) : (be width value).length = width := by
  induction width generalizing value with
  | zero => rfl
  | succ width ih => simp [be,ih]

@[simp] theorem readBeNil : readBE [] = 0 := rfl

theorem readBeSnoc (raw : Bytes) (b : UInt8) : readBE (raw ++ [b]) = readBE raw*256+b.toNat := by
  simp [readBE]

theorem readBeAppend (a b : Bytes) : readBE (a ++ b) = readBE a*256^b.length+readBE b := by
  induction b using List.reverseRecOn with
  | nil => simp
  | append_singleton b last ih =>
    rw [← List.append_assoc,readBeSnoc,ih,readBeSnoc,List.length_append,List.length_singleton]
    ring

theorem readBeBound (raw : Bytes) : readBE raw < 256^raw.length := by
  induction raw using List.reverseRecOn with
  | nil => simp
  | append_singleton raw last ih =>
    rw [readBeSnoc,List.length_append,List.length_singleton,Nat.pow_succ]
    have small := last.toNat_lt
    omega

theorem readBeEncoded (width value : Nat) : readBE (be width value) = value % 256^width := by
  induction width generalizing value with
  | zero => simp [be,Nat.mod_one]
  | succ width ih =>
    have low : (UInt8.ofNat value).toNat = value % 256 := by simp
    rw [be,readBeSnoc,ih,low,Nat.pow_succ',Nat.mod_mul]
    ring

theorem readBeExact {width value : Nat} (bound : value < 256^width) : readBE (be width value) = value := by
  rw [readBeEncoded,Nat.mod_eq_of_lt bound]

def readField (width : Nat) (raw : Bytes) : Option (Nat × Bytes) :=
  if width ≤ raw.length then some (readBE (raw.take width),raw.drop width) else none

theorem readFieldAppend (field rest : Bytes) :
    readField field.length (field ++ rest) = some (readBE field,rest) := by
  simp [readField]

theorem readFieldEncoded {width value : Nat} (bound : value < 256^width) (rest : Bytes) :
    readField width (be width value ++ rest) = some (value,rest) := by
  have read := readFieldAppend (be width value) rest
  rwa [beLength,readBeExact bound] at read

def strided {α : Type*} (read : Nat → α) (offset width count : Nat) : List α :=
  (List.range count).map fun k => read (offset+width*k)

theorem stridedSucc {α : Type*} (read : Nat → α) (offset width count : Nat) :
    strided read offset width (count+1) = read offset::strided read (offset+width) width count := by
  have shift (k : Nat) : offset+width*(k+1) = offset+width+width*k := by ring
  simp [strided,List.range_succ_eq_map,Function.comp_def,shift]

theorem xorLastDigit (a b : Nat) (x y : UInt8) :
    (a*256+x.toNat) ^^^ (b*256+y.toNat) = (a ^^^ b)*256+(x ^^^ y).toNat := by
  have shift (n : Nat) (z : UInt8) : n*256+z.toNat = 2^8*n+z.toNat := by omega
  have small (z : UInt8) : z.toNat < 2^8 := z.toNat_lt
  apply Nat.eq_of_testBit_eq
  intro i
  rw [Nat.testBit_xor,shift,shift,shift,Nat.testBit_two_pow_mul_add a (small x),
    Nat.testBit_two_pow_mul_add b (small y),Nat.testBit_two_pow_mul_add _ (small _)]
  split <;> simp

theorem readBeXor {a b : Bytes} (length : a.length = b.length) :
    readBE (List.zipWith (· ^^^ ·) a b) = readBE a ^^^ readBE b := by
  induction a using List.reverseRecOn generalizing b with
  | nil =>
    have empty : b = [] := List.length_eq_zero_iff.mp (by simpa using length.symm)
    subst b
    rfl
  | append_singleton a x ih =>
    rcases List.eq_nil_or_concat b with rfl | ⟨b,y,rfl⟩
    · simp at length
    · have same : a.length = b.length := by simpa using length
      rw [List.concat_eq_append,List.zipWith_append same,List.zipWith_cons_cons,List.zipWith_nil_right,readBeSnoc,
        readBeSnoc,readBeSnoc,ih same,xorLastDigit]

end Basis
