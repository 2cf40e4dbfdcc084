import Chromiacast.Basis.Text

/-! Numbers as they are written: digits of a radix, read back by `fromStrRadix`, and bytes as
pairs of hexadecimal digits. -/
namespace Basis

theorem toDigitPlus (radix : Nat) : toDigit radix '+' = none := by
  simp [toDigit,Char.isDigit,Char.isLower,Char.isUpper]

theorem toDigitBound {radix digit : Nat} {c : Char} (read : toDigit radix c = some digit) : digit < radix := by
  simp only [toDigit] at read
  generalize (if c.isDigit then _ else _) = value at read
  split at read <;> try contradiction
  cases Option.some.inj read
  assumption

theorem toDigitWide (radix : Nat) {c : Char} (wide : 128 ≤ c.toNat) : toDigit radix c = none := by
  have outside (high : UInt32) (small : high.toNat < 128) : ¬ c.val ≤ high := by
    rw [UInt32.le_iff_toNat_le]
    change ¬ c.toNat ≤ high.toNat
    omega
  have digit : c.isDigit = false := by simp [Char.isDigit,outside 57 (by decide)]
  have lower : c.isLower = false := by simp [Char.isLower,outside 122 (by decide)]
  have upper : c.isUpper = false := by simp [Char.isUpper,outside 90 (by decide)]
  simp [toDigit,digit,lower,upper]

theorem toDigitChar {radix digit : Nat} (small : radix ≤ 16) (inside : digit < radix) :
    toDigit radix digit.digitChar = some digit := by
  have all : ∀ radix ≤ 16, ∀ digit < radix, toDigit radix digit.digitChar = some digit := by decide
  exact all radix small digit inside

def digitsValue (radix : Nat) (values : List Nat) : Nat := values.foldl (fun sum digit => sum*radix+digit) 0

theorem readDigits {bits radix : Nat} {text : List Char} {values : List Nat} (nonempty : text ≠ [])
    (read : text.mapM (toDigit radix) = some values) (fits : digitsValue radix values < 2^bits) :
    fromStrRadix bits radix text = some (digitsValue radix values) := by
  have unsigned (rest : List Char) : text ≠ '+'::rest := by
    rintro rfl
    simp [toDigitPlus] at read
  unfold fromStrRadix
  split
  · exact absurd rfl (unsigned _)
  · simp only [if_neg nonempty,read,Option.bind_eq_bind,Option.bind_some]
    exact if_pos fits

theorem toDigitsRead {radix : Nat} (big : 1 < radix) (small : radix ≤ 16) (n : Nat) :
    ∃ values, (Nat.toDigits radix n).mapM (toDigit radix) = some values ∧ digitsValue radix values = n := by
  induction n using Nat.strong_induction_on with
  | h n ih =>
    by_cases single : n < radix
    · rw [Nat.toDigits_of_lt_base single]
      exact ⟨[n],by simp [toDigitChar small single],by simp [digitsValue]⟩
    · have less : n/radix < n := Nat.div_lt_self (by omega) big
      obtain ⟨values,read,value⟩ := ih (n/radix) less
      rw [Nat.toDigits_of_base_le big (by omega)]
      refine ⟨values ++ [n%radix],?_,?_⟩
      · simp [List.mapM_append,read,toDigitChar small (Nat.mod_lt n (by omega))]
      · rw [digitsValue,List.foldl_append,← digitsValue,value]
        exact Nat.div_add_mod' n radix

theorem toDigitsNonempty {radix : Nat} (big : 1 < radix) (n : Nat) : Nat.toDigits radix n ≠ [] := by
  by_cases single : n < radix
  · simp [Nat.toDigits_of_lt_base single]
  · simp [Nat.toDigits_of_base_le big (not_lt.mp single)]

theorem readToDigits {bits radix n : Nat} (big : 1 < radix) (small : radix ≤ 16) (fits : n < 2^bits) :
    fromStrRadix bits radix (Nat.toDigits radix n) = some n := by
  obtain ⟨values,read,rfl⟩ := toDigitsRead big small n
  exact readDigits (toDigitsNonempty big _) read fits

def hexDecode : List Char → Option Bytes
  | [] => some []
  | [_] => none
  | high::low::rest => do
    let high ← toDigit 16 high
    let low ← toDigit 16 low
    let bytes ← hexDecode rest
    some (UInt8.ofNat (16*high+low)::bytes)

def hexDigit (upper : Bool) (n : Nat) : Char :=
  if n < 10 then Char.ofNat (48+n) else Char.ofNat ((if upper then 55 else 87)+n)

def hexEncode (upper : Bool) (data : Bytes) : List Char :=
  data.flatMap fun byte => [hexDigit upper (byte.toNat/16),hexDigit upper (byte.toNat%16)]

theorem toDigitHex (upper : Bool) {n : Nat} (small : n < 16) : toDigit 16 (hexDigit upper n) = some n := by
  have all : ∀ upper, ∀ n < 16, toDigit 16 (hexDigit upper n) = some n := by decide
  exact all upper n small

theorem hexDecodeEncode (upper : Bool) (data : Bytes) : hexDecode (hexEncode upper data) = some data := by
  induction data with
  | nil => rfl
  | cons byte rest ih =>
    have bound := byte.toNat_lt
    have value : 16*(byte.toNat/16)+byte.toNat%16 = byte.toNat := Nat.div_add_mod byte.toNat 16
    rw [hexEncode,List.flatMap_cons,← hexEncode]
    simp only [List.cons_append,List.nil_append,hexDecode,toDigitHex upper (show byte.toNat/16 < 16 by omega),
      toDigitHex upper (show byte.toNat%16 < 16 by omega),ih,value,Option.bind_eq_bind,Option.bind_some,
      UInt8.ofNat_toNat]

end Basis
