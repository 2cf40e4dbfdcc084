import Chromiacast.Basis.Bytes

/-! Searching a byte string for a pattern and reading numbers from text. Where a
pattern is first found does not change when bytes are added behind it or cut off
behind it. -/
namespace Basis

section Position
variable {α : Type} [DecidableEq α]

def position (pattern : List α) : List α → Option Nat
  | [] => none
  | x::rest => if pattern.isPrefixOf (x::rest) then some 0 else (position pattern rest).map (·+1)

theorem positionIff {pattern : List α} (nonempty : pattern ≠ []) {data : List α} {i : Nat} :
    position pattern data = some i ↔
      pattern <+: data.drop i ∧ ∀ j < i, ¬ pattern <+: data.drop j := by
  induction data generalizing i with
  | nil => simp [position,nonempty]
  | cons x rest ih =>
    by_cases here : pattern <+: x::rest
    · rw [position,if_pos (List.isPrefixOf_iff_prefix.mpr here)]
      constructor
      · intro found
        cases Option.some.inj found
        exact ⟨here,fun j less => absurd less (Nat.not_lt_zero j)⟩
      · intro found
        cases i with
        | zero => rfl
        | succ i => exact absurd here (found.2 0 (Nat.succ_pos i))
    · rw [position,if_neg (fun found => here (List.isPrefixOf_iff_prefix.mp found))]
      cases i with
      | zero => simp [here]
      | succ i =>
        have shifted : (position pattern rest).map (·+1) = some (i+1) ↔ position pattern rest = some i := by
          cases position pattern rest <;> simp
        rw [shifted,ih,List.drop_succ_cons]
        refine and_congr_right fun _ => ⟨fun before j less => ?_,fun before j less => ?_⟩
        · cases j with
          | zero => exact here
          | succ j => exact before j (Nat.lt_of_succ_lt_succ less)
        · exact before (j+1) (Nat.succ_lt_succ less)

omit [DecidableEq α] in
theorem windowIff {pattern data whole : List α} {i : Nat} (cut : data <+: whole)
    (inside : i+pattern.length ≤ data.length) : pattern <+: data.drop i ↔ pattern <+: whole.drop i := by
  obtain ⟨rest,rfl⟩ := cut
  have room : i ≤ data.length := by omega
  rw [List.drop_append_of_le_length room]
  refine ⟨fun found => found.trans (List.prefix_append _ _),fun found => ?_⟩
  exact List.prefix_of_prefix_length_le found (List.prefix_append _ _) (by rw [List.length_drop]; omega)

theorem positionInside {pattern : List α} (nonempty : pattern ≠ []) {data : List α} {i : Nat}
    (found : position pattern data = some i) : i+pattern.length ≤ data.length := by
  have here := ((positionIff nonempty).mp found).1.length_le
  have some : 0 < pattern.length := List.length_pos_iff.mpr nonempty
  rw [List.length_drop] at here
  omega

theorem positionLocal {pattern : List α} (nonempty : pattern ≠ []) {data whole : List α} {i : Nat}
    (cut : data <+: whole) (inside : i+pattern.length ≤ data.length) :
    position pattern data = some i ↔ position pattern whole = some i := by
  rw [positionIff nonempty,positionIff nonempty,windowIff cut inside]
  refine and_congr_right fun _ => forall₂_congr fun j less => ?_
  rw [windowIff cut (by omega)]

theorem positionAppend {pattern : List α} (nonempty : pattern ≠ []) {data : List α} {i : Nat}
    (found : position pattern data = some i) (rest : List α) : position pattern (data ++ rest) = some i :=
  (positionLocal nonempty (List.prefix_append _ _) (positionInside nonempty found)).mp found

theorem positionSplit {pattern : List α} (nonempty : pattern ≠ []) {data : List α} {i : Nat}
    (found : position pattern data = some i) :
    data.take i ++ pattern ++ data.drop (i+pattern.length) = data ∧ (data.take i).length = i := by
  obtain ⟨⟨rest,here⟩,_⟩ := (positionIff nonempty).mp found
  have inside := positionInside nonempty found
  refine ⟨?_,by rw [List.length_take]; omega⟩
  have after : data.drop (i+pattern.length) = rest := by
    rw [← List.drop_drop,← here,List.drop_left]
  rw [after,List.append_assoc,here,List.take_append_drop]

end Position

section Numbers

/- The characters with the Unicode property White_Space. -/
def isWhitespace (c : Char) : Bool :=
  c.toNat ∈ [0x20,0x85,0xA0,0x1680,0x2028,0x2029,0x202F,0x205F,0x3000] ||
    (0x09 ≤ c.toNat && c.toNat ≤ 0x0D) || (0x2000 ≤ c.toNat && c.toNat ≤ 0x200A)

def trim (text : List Char) : List Char :=
  ((text.dropWhile isWhitespace).reverse.dropWhile isWhitespace).reverse

theorem trimIdempotent (text : List Char) : trim (trim text) = trim text := by
  have front : (trim text).dropWhile isWhitespace = trim text := by
    have stem : trim text <+: text.dropWhile isWhitespace := List.rdropWhile_prefix isWhitespace _
    cases trimmed : trim text with
    | nil => rfl
    | cons c rest =>
      obtain ⟨tail,split⟩ := stem
      rw [trimmed] at split
      have first : isWhitespace c = false := by
        have head := List.head?_dropWhile_not isWhitespace text
        rw [← split] at head
        simpa using head
      rw [List.dropWhile_cons_of_neg (by simp [first])]
  have back : List.rdropWhile isWhitespace (trim text) = trim text :=
    List.rdropWhile_idempotent isWhitespace (text.dropWhile isWhitespace)
  rw [trim,front]
  exact back

def toDigit (radix : Nat) (c : Char) : Option Nat :=
  let value := if c.isDigit then c.toNat-48 else if c.isLower then c.toNat-87
    else if c.isUpper then c.toNat-55 else radix
  if value < radix then some value else none

/- An unsigned number of so many bits: digits after at most one plus sign. -/
def fromStrRadix (bits radix : Nat) (text : List Char) : Option Nat := do
  let digits := match text with
    | '+'::rest => rest
    | _ => text
  if digits = [] then none
  else
    let values ← digits.mapM (toDigit radix)
    let value := values.foldl (fun sum digit => sum*radix+digit) 0
    if value < 2^bits then some value else none

example : fromStrRadix 64 16 "+1F".toList = some 31 := by decide

end Numbers

section Utf8

theorem utf8Ascii {c : Char} (small : c.toNat < 128) : String.utf8EncodeChar c = [UInt8.ofNat c.toNat] :=
  if_pos (Nat.le_of_lt_succ small)

theorem utf8Wide {c : Char} (wide : 128 ≤ c.toNat) :
    ∃ first rest, String.utf8EncodeChar c = first::rest ∧ 128 ≤ first.toNat := by
  have longer : ¬ c.val.toNat ≤ 127 := by
    change ¬ c.toNat ≤ 127
    omega
  simp only [String.utf8EncodeChar,if_neg longer]
  split
  · exact ⟨_,_,rfl,by rw [UInt8.toNat_ofNat']; omega⟩
  · split <;> exact ⟨_,_,rfl,by rw [UInt8.toNat_ofNat']; omega⟩

end Utf8

end Basis
