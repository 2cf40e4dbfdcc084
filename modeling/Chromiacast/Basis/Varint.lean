import Chromiacast.Basis.Outcome

/-! Base-128 numbers: seven bits a byte, lowest group first, the top bit set on
every byte but the last. The word-level facts bring 64-bit accumulators down to
sums of groups. -/
namespace Basis.Varint

def weight : Bytes → Nat
  | [] => 0
  | b::rest => b.toNat%128+128*weight rest

def Continuing (raw : Bytes) : Prop := ∀ b ∈ raw, 128 ≤ b.toNat

inductive Complete : Bytes → Prop
  | last {b : UInt8} (stops : b.toNat < 128) : Complete [b]
  | more {b : UInt8} {rest : Bytes} (continues : 128 ≤ b.toNat) (tail : Complete rest) : Complete (b::rest)

theorem Complete.nonempty {raw : Bytes} (complete : Complete raw) : 0 < raw.length := by
  cases complete <;> simp

/- A number is never the start of another one, so its end is where the bytes say. -/
theorem Complete.unique {a b x y : Bytes} (left : Complete a) (right : Complete b) (same : a ++ x = b ++ y) :
    a = b ∧ x = y := by
  induction left generalizing b with
  | last stops =>
    cases right with
    | last stops' =>
      simp only [List.cons_append,List.nil_append,List.cons.injEq] at same
      exact ⟨by rw [same.1],same.2⟩
    | more continues tail =>
      simp only [List.cons_append,List.cons.injEq] at same
      rw [same.1] at stops
      omega
  | more continues tail ih =>
    cases right with
    | last stops =>
      simp only [List.cons_append,List.cons.injEq] at same
      rw [same.1] at continues
      omega
    | more continues' tail' =>
      simp only [List.cons_append,List.cons.injEq] at same
      obtain ⟨rests,ends⟩ := ih tail' same.2
      exact ⟨by rw [same.1,rests],ends⟩

theorem weightBound (raw : Bytes) : weight raw < 128^raw.length := by
  induction raw with
  | nil => simp [weight]
  | cons b rest ih =>
    simp only [weight,List.length_cons,Nat.pow_succ]
    omega

theorem weightAppend (a b : Bytes) : weight (a ++ b) = weight a+128^a.length*weight b := by
  induction a with
  | nil => simp [weight]
  | cons x rest ih =>
    simp only [List.cons_append,weight,ih,List.length_cons]
    ring

def encode : Nat → Nat → Bytes
  | 0,_ => []
  | groups+1,value =>
    if value < 128 then [UInt8.ofNat value] else UInt8.ofNat (value%128+128)::encode groups (value/128)

theorem encodeSpec {groups value : Nat} (fits : value < 128^groups) (some : 0 < groups) :
    Complete (encode groups value) ∧ weight (encode groups value) = value := by
  induction groups generalizing value with
  | zero => omega
  | succ groups ih =>
    simp only [encode]
    split
    · rename_i small
      have low : (UInt8.ofNat value).toNat = value := by
        rw [UInt8.toNat_ofNat']
        omega
      exact ⟨Complete.last (by rw [low]; exact small),by simp only [weight,low]; omega⟩
    · rename_i large
      have low : (UInt8.ofNat (value%128+128)).toNat = value%128+128 := by
        rw [UInt8.toNat_ofNat']
        omega
      cases groups with
      | zero => simp only [Nat.zero_add,Nat.pow_one] at fits; omega
      | succ groups =>
        have rest : value/128 < 128^(groups+1) := by
          rw [Nat.pow_succ] at fits
          omega
        obtain ⟨complete,total⟩ := ih rest (by omega)
        exact ⟨Complete.more (by rw [low]; omega) complete,by simp only [weight,low,total]; omega⟩

theorem encodeLength (groups value : Nat) : (encode groups value).length ≤ groups := by
  induction groups generalizing value with
  | zero => simp [encode]
  | succ groups ih =>
    simp only [encode]
    split
    · simp
    · simp [ih]

structure Word (raw : Bytes) (value : UInt64) : Prop where
  complete : Complete raw
  short : raw.length ≤ 10
  exact : weight raw = value.toNat

theorem Word.unique {a b x y : Bytes} {v w : UInt64} (left : Word a v) (right : Word b w) (same : a ++ x = b ++ y) :
    a = b ∧ v = w ∧ x = y := by
  obtain ⟨heads,rests⟩ := left.complete.unique right.complete same
  subst heads
  exact ⟨rfl,UInt64.toNat_inj.mp (left.exact.symm.trans right.exact),rests⟩

theorem encodeWord (value : UInt64) : Word (encode 10 value.toNat) value := by
  have small : value.toNat < 128^10 := by
    have bound := value.toNat_lt
    omega
  obtain ⟨complete,total⟩ := encodeSpec small (by omega)
  exact ⟨complete,encodeLength _ _,total⟩

theorem stopsIff (b : UInt8) : b &&& 0x80 = 0 ↔ b.toNat < 128 := by
  have every := (by decide +kernel : ∀ n : Fin 256, UInt8.ofNat n.val &&& 0x80 = 0 ↔ n.val < 128)
  have at' := every ⟨b.toNat,b.toNat_lt⟩
  simpa using at'

theorem group (b : UInt8) : (b &&& 0x7F).toNat = b.toNat%128 := by
  rw [UInt8.toNat_and]
  exact Nat.and_two_pow_sub_one_eq_mod b.toNat 7

theorem shiftGroup (value : UInt64) : (value >>> 7).toNat = value.toNat/128 := by
  rw [UInt64.toNat_shiftRight]
  simp [Nat.shiftRight_eq_div_pow]

theorem markMore {b : UInt8} {n : Nat} (low : b.toNat = n%128) : b ||| 0x80 = UInt8.ofNat (n%128+128) := by
  have top := Nat.two_pow_add_eq_or_of_lt (by omega : n%128 < 2^7) 1
  apply UInt8.toNat_inj.mp
  rw [UInt8.toNat_or,low,Nat.or_comm,UInt8.toNat_ofNat']
  exact top.symm.trans (by omega)

def accumulate (value : UInt64) (shift : Nat) (b : UInt8) : UInt64 :=
  value ||| ((b &&& 0x7F).toUInt64 <<< UInt64.ofNat shift)

theorem accumulateValue {value : UInt64} {shift : Nat} {b : UInt8} (small : value.toNat < 2^shift)
    (inside : shift < 64) (fits : b.toNat%128*2^shift < 2^64) :
    (accumulate value shift b).toNat = value.toNat+b.toNat%128*2^shift := by
  have place : (UInt64.ofNat shift).toNat%64 = shift := by
    rw [UInt64.toNat_ofNat']
    omega
  have shifted : ((b &&& 0x7F).toUInt64 <<< UInt64.ofNat shift).toNat = 2^shift*(b.toNat%128) := by
    rw [UInt64.toNat_shiftLeft,place,UInt8.toNat_toUInt64,group,Nat.shiftLeft_eq,Nat.mod_eq_of_lt fits,Nat.mul_comm]
  -- the groups before this one lie below the shift, so no bit is set twice
  have disjoint := Nat.two_pow_add_eq_or_of_lt small (b.toNat%128)
  simp only [accumulate,UInt64.toNat_or,shifted]
  rw [Nat.or_comm,← disjoint]
  ring

theorem Complete.extend {read raw : Bytes} (continuing : Continuing read) (complete : Complete raw) :
    Complete (read ++ raw) := by
  induction read with
  | nil => exact complete
  | cons b rest ih =>
    exact Complete.more (continuing b (by simp)) (ih fun x member => continuing x (by simp [member]))

theorem Complete.remainder {read raw : Bytes} (continuing : Continuing read) (complete : Complete (read ++ raw)) :
    Complete raw := by
  induction read with
  | nil => exact complete
  | cons b rest ih =>
    have continues := continuing b (by simp)
    rw [List.cons_append] at complete
    generalize after : rest ++ raw = tail at complete ih
    cases complete with
    | last stops => omega
    | more _ complete => exact ih (fun x member => continuing x (by simp [member])) complete

structure Reading (read : Bytes) (value : UInt64) (shift : Nat) : Prop where
  continuing : Continuing read
  exact : value.toNat = weight read
  place : shift = 7*read.length
  short : read.length ≤ 9

namespace Reading
variable {read : Bytes} {value : UInt64} {shift : Nat} {b : UInt8}

theorem start : Reading [] 0 0 := ⟨by simp [Continuing],rfl,rfl,by simp⟩

theorem bound (reading : Reading read value shift) : value.toNat < 2^shift := by
  have below := weightBound read
  rw [reading.exact,reading.place,Nat.pow_mul]
  exact below

/- The tenth byte has room for one bit. -/
theorem room (reading : Reading read value shift) (inside : ¬ (shift = 63 ∧ 1 < b)) :
    shift < 64 ∧ b.toNat%128*2^shift < 2^64 := by
  have place := reading.place
  have short := reading.short
  rcases Nat.lt_or_eq_of_le short with fewer | last
  · have early : shift ≤ 56 := by omega
    have power : 2^shift ≤ 2^56 := Nat.pow_le_pow_right (by omega) early
    have scaled : b.toNat%128*2^shift ≤ 127*2^56 := Nat.mul_le_mul (by omega) power
    exact ⟨by omega,by omega⟩
  · have tenth : shift = 63 := by omega
    have bit : b.toNat ≤ 1 := by
      have small : ¬ 1 < b := fun more => inside ⟨tenth,more⟩
      exact UInt8.le_iff_toNat_le.mp (UInt8.not_lt.mp small)
    subst tenth
    exact ⟨by omega,by omega⟩

theorem absorbed (reading : Reading read value shift) (inside : ¬ (shift = 63 ∧ 1 < b)) :
    (accumulate value shift b).toNat = weight (read ++ [b]) := by
  obtain ⟨early,fits⟩ := reading.room inside
  rw [accumulateValue reading.bound early fits,weightAppend,reading.exact,reading.place,Nat.pow_mul]
  simp only [weight]
  ring

theorem stop (reading : Reading read value shift) (inside : ¬ (shift = 63 ∧ 1 < b)) (stops : b.toNat < 128) :
    Word (read ++ [b]) (accumulate value shift b) :=
  ⟨Complete.extend reading.continuing (Complete.last stops),by simp [Nat.lt_succ_of_le reading.short],
    (reading.absorbed inside).symm⟩

theorem more (reading : Reading read value shift) (inside : ¬ (shift = 63 ∧ 1 < b)) (continues : 128 ≤ b.toNat) :
    Reading (read ++ [b]) (accumulate value shift b) (shift+7) ∧ shift+7 < 64 := by
  have place := reading.place
  have short := reading.short
  have large : 1 < b := UInt8.lt_iff_toNat_lt.mpr (lt_of_lt_of_le (by decide) continues)
  have early : shift ≠ 63 := fun tenth => inside ⟨tenth,large⟩
  refine ⟨⟨?_,reading.absorbed inside,?_,?_⟩,by omega⟩
  · intro x member
    rcases List.mem_append.mp member with old | new
    · exact reading.continuing x old
    · cases List.mem_singleton.mp new
      exact continues
  · rw [List.length_append,List.length_singleton]
    omega
  · rw [List.length_append,List.length_singleton]
    omega

theorem overflow (reading : Reading read value shift) (outside : shift = 63 ∧ 1 < b) (rest : Bytes) (total : UInt64) :
    ¬ Word (read ++ b::rest) total := by
  intro word
  have place := reading.place
  have nine : read.length = 9 := by omega
  have short := word.short
  simp only [List.length_append,List.length_cons] at short
  have last : rest = [] := List.length_eq_zero_iff.mp (by omega)
  subst last
  have two : 2 ≤ b.toNat := UInt8.lt_iff_toNat_lt.mp outside.2
  have tail := Complete.remainder reading.continuing word.complete
  have low : b.toNat < 128 := by
    cases tail with
    | last stops => exact stops
    | more _ tail => cases tail
  have total' := word.exact
  rw [weightAppend,nine] at total'
  simp only [weight] at total'
  have bound := total.toNat_lt
  omega

end Reading

section Slices
variable {ε : Type}

def take (truncated overflow : ε) : List Nat → Bytes → UInt64 → Outcome ε (UInt64 × Bytes)
  | [],_,_ => .err overflow
  | _::_,[],_ => .err truncated
  | shift::shifts,byte::rest,value =>
    if shift = 63 ∧ 1 < byte then .err overflow else
      let value := accumulate value shift byte
      if byte &&& 0x80 = 0 then .ok (value,rest) else take truncated overflow shifts rest value

def shifts : List Nat := (List.range 10).map (7*·)

theorem takeRecognises (truncated overflow : ε) {read : Bytes} {value : UInt64} {groups : Nat}
    (reading : Reading read value (7*read.length)) (enough : read.length+groups = 10) (data : Bytes) :
    (take truncated overflow ((List.range' read.length groups).map (7*·)) data value).Recognises fun r =>
      ∃ raw, data = raw ++ r.2 ∧ Word (read ++ raw) r.1 := by
  induction groups generalizing read value data with
  | zero =>
    have short := reading.short
    omega
  | succ groups ih =>
    rw [List.range'_succ,List.map_cons]
    cases data with
    | nil =>
      refine Outcome.Recognises.err _ fun r => ?_
      rintro ⟨raw,split,word⟩
      obtain ⟨rfl,_⟩ := List.append_eq_nil_iff.mp split.symm
      exact absurd (Complete.remainder reading.continuing word.complete).nonempty (by simp)
    | cons byte data =>
      -- what is left of the number starts with the first byte
      have starts (raw rest : Bytes) (total : UInt64) (split : byte::data = raw ++ rest)
          (word : Word (read ++ raw) total) : ∃ tail, raw = byte::tail ∧ data = tail ++ rest := by
        have unread := Complete.remainder reading.continuing word.complete
        cases raw with
        | nil => exact absurd unread.nonempty (by simp)
        | cons b tail =>
          obtain ⟨rfl,rest'⟩ := List.cons.inj split
          exact ⟨tail,rfl,rest'⟩
      simp only [take]
      apply Outcome.Recognises.reject
      · rintro outside r ⟨raw,split,word⟩
        obtain ⟨tail,rfl,_⟩ := starts raw r.2 r.1 split word
        exact reading.overflow outside tail r.1 word
      · intro fits
        by_cases stops : byte &&& 0x80 = 0
        · rw [if_pos stops]
          have word := reading.stop fits ((stopsIff byte).mp stops)
          refine (Outcome.Recognises.ok _).congr fun r => ?_
          constructor
          · rintro rfl
            exact ⟨[byte],rfl,word⟩
          · rintro ⟨raw,split,other⟩
            obtain ⟨tail,rfl,after⟩ := starts raw r.2 r.1 split other
            obtain ⟨_,total,rfl⟩ := word.unique (x := tail) (y := []) other (by simp)
            exact Prod.ext total.symm after.symm
        · rw [if_neg stops]
          have continues : 128 ≤ byte.toNat := Nat.le_of_not_lt fun less => stops ((stopsIff byte).mpr less)
          obtain ⟨further,early⟩ := reading.more fits continues
          have length : (read ++ [byte]).length = read.length+1 := by simp
          rw [← Nat.mul_succ,Nat.succ_eq_add_one,← length] at further
          have next := ih further (by omega) data
          rw [length] at next
          refine next.congr fun r => ?_
          constructor
          · rintro ⟨raw,split,word⟩
            exact ⟨byte::raw,by rw [split]; rfl,by simpa using word⟩
          · rintro ⟨raw,split,word⟩
            obtain ⟨tail,rfl,after⟩ := starts raw r.2 r.1 split word
            exact ⟨tail,after,by simpa using word⟩

theorem takeSpec (truncated overflow : ε) (data : Bytes) :
    (take truncated overflow shifts data 0).Recognises fun r => ∃ raw, data = raw ++ r.2 ∧ Word raw r.1 := by
  have start := takeRecognises truncated overflow Reading.start (show ([] : Bytes).length+10 = 10 from rfl) data
  exact start

end Slices

end Basis.Varint
