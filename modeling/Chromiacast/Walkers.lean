import Chromiacast.CastGrammar

/-! The two other protobuf walkers: the field list of the authentication messages and
the field numbers the remote session traces. Both shrink a slice, each with a varint
loop of its own, and take a number only if it is positive and fits 32 bits. -/
namespace Chromiacast
open Basis

namespace Auth

inductive WireValue where
  | varint (value : UInt64)
  | bytes (contents : Bytes)
  deriving DecidableEq, Repr

abbrev Fields := List (UInt32 × WireValue)

def take (data : Bytes) (length : Nat) : Outcome String (Bytes × Bytes) :=
  if data.length < length then .err "truncated protobuf field" else .ok (data.take length,data.drop length)

def takeVarintLoop : List Nat → Bytes → UInt64 → Outcome String (UInt64 × Bytes)
  | [],_,_ => .err "protobuf varint overflow"
  | shift::shifts,data,value =>
    take data 1 >>= fun r =>
      match r.1.head? with
      | none => .err "truncated protobuf varint"
      | some byte =>
        if shift = 63 ∧ 1 < byte then .err "protobuf varint overflow" else
          let value := Varint.accumulate value shift byte
          if byte &&& 0x80 = 0 then .ok (value,r.2) else takeVarintLoop shifts r.2 value

def takeVarint (data : Bytes) : Outcome String (UInt64 × Bytes) :=
  takeVarintLoop ((List.range 10).map (7*·)) data 0

def parseValue (fields : Fields) (number : UInt32) (wire : UInt64) (data : Bytes) :
    Outcome String (Fields × Bytes) :=
  match wire.toNat with
  | 0 => takeVarint data >>= fun r => .ok (fields ++ [(number,.varint r.1)],r.2)
  | 1 => take data 8 >>= fun r => .ok (fields,r.2)
  | 2 => takeVarint data >>= fun length => take length.2 length.1.toNat >>= fun r =>
      .ok (fields ++ [(number,.bytes r.1)],r.2)
  | 5 => take data 4 >>= fun r => .ok (fields,r.2)
  | _ => .err ("unsupported protobuf wire type " ++ toString wire)

def parseField (data : Bytes) (fields : Fields) : Outcome String (Fields × Bytes) :=
  takeVarint data >>= fun r =>
    let number := r.1 >>> 3
    if 0xFFFFFFFF < number then .err "protobuf field overflow" else
      if number.toUInt32 = 0 then .err "protobuf field number is zero" else
        parseValue fields number.toUInt32 (r.1 &&& 7) r.2

def parseFields (data : Bytes) : Outcome String Fields := walk parseField data.length data []

end Auth

/- `None` is an error without a value. -/
namespace AndroidTv

def takeVarintLoop : List Nat → Bytes → UInt64 → Outcome Unit (UInt64 × Bytes)
  | [],_,_ => .err ()
  | shift::shifts,bytes,value =>
    match bytes.head? with
    | none => .err ()
    | some byte =>
      let bytes := bytes.drop 1
      if shift = 63 ∧ 1 < byte then .err () else
        let value := Varint.accumulate value shift byte
        if byte &&& 0x80 = 0 then .ok (value,bytes) else takeVarintLoop shifts bytes value

def takeVarint (bytes : Bytes) : Outcome Unit (UInt64 × Bytes) :=
  takeVarintLoop ((List.range 10).map (7*·)) bytes 0

def getFrom (bytes : Bytes) (length : Nat) : Outcome Unit Bytes :=
  if bytes.length < length then .err () else .ok (bytes.drop length)

def skipValue (wire : UInt64) (bytes : Bytes) : Outcome Unit Bytes :=
  match wire.toNat with
  | 0 => takeVarint bytes >>= fun r => .ok r.2
  | 1 => getFrom bytes 8
  | 2 => takeVarint bytes >>= fun length => getFrom length.2 length.1.toNat
  | 5 => getFrom bytes 4
  | _ => .err ()

def fieldNumber (bytes : Bytes) (fields : List UInt32) : Outcome Unit (List UInt32 × Bytes) :=
  takeVarint bytes >>= fun r =>
    let field := r.1 >>> 3
    if 0xFFFFFFFF < field then .err () else
      if field.toUInt32 = 0 then .err () else
        skipValue (r.1 &&& 0x07) r.2 >>= fun bytes => .ok (fields ++ [field.toUInt32],bytes)

def topLevelFieldNumbers (bytes : Bytes) : Outcome Unit (List UInt32) := walk fieldNumber bytes.length bytes []

end AndroidTv

namespace WireField

def InRange (field : WireField) : Prop := 0 < field.number ∧ field.number < 2^32

instance (field : WireField) : Decidable field.InRange := inferInstanceAs (Decidable (_ ∧ _))

def kept : WireField → Option (UInt32 × Auth.WireValue)
  | varint n value => some (UInt32.ofNat n,.varint value)
  | lengthDelimited n contents => some (UInt32.ofNat n,.bytes contents)
  | fixed64 _ _ => none
  | fixed32 _ _ => none

end WireField

section Specs
variable {data : Bytes} {tag : UInt64}

theorem numberRange (tag : UInt64) : (0xFFFFFFFF : UInt64) < tag >>> 3 ↔ ¬ tag.toNat/8 < 2^32 := by
  have shifted : (tag >>> 3).toNat = tag.toNat/8 := by
    rw [UInt64.toNat_shiftRight]
    simp [Nat.shiftRight_eq_div_pow]
  have limit : (0xFFFFFFFF : UInt64).toNat = 2^32-1 := rfl
  rw [UInt64.lt_iff_toNat_lt,shifted,limit]
  omega

theorem numberOf (tag : UInt64) : (tag >>> 3).toUInt32 = UInt32.ofNat (tag.toNat/8) := by
  rw [← UInt32.toNat_inj,fieldNumberValue,UInt32.toNat_ofNat']

theorem numberZero (small : tag.toNat/8 < 2^32) : (tag >>> 3).toUInt32 = 0 ↔ ¬ 0 < tag.toNat/8 := by
  have zero : (0 : UInt32).toNat = 0 := rfl
  rw [← UInt32.toNat_inj,fieldNumberValue,Nat.mod_eq_of_lt small,zero]
  omega

theorem wireOf (tag : UInt64) : (tag &&& 7).toNat = tag.toNat%8 := by
  rw [UInt64.toNat_and]
  exact Nat.and_two_pow_sub_one_eq_mod tag.toNat 3

theorem takesChecked {ε σ : Type} {apply : WireField → Option σ} {body : Outcome ε (σ × Bytes)} (e e' : ε)
    (ranged : ∀ field u, apply field = some u → field.InRange)
    (inRange : 0 < tag.toNat/8 → tag.toNat/8 < 2^32 → body.Recognises (Takes Leaves apply tag data)) :
    (if (0xFFFFFFFF : UInt64) < tag >>> 3 then Outcome.err e
      else if (tag >>> 3).toUInt32 = 0 then Outcome.err e' else body).Recognises (Takes Leaves apply tag data) := by
  have number (field : WireField) (tagged : tag.toNat = 8*field.number+field.wireType) :
      field.number = tag.toNat/8 := by
    have small : field.wireType < 8 := by cases field <;> simp [WireField.wireType]
    omega
  refine Outcome.Recognises.reject _ ?_ fun inside => ?_
  · rintro large r ⟨field,contents,tagged,_,_,applied⟩
    have range := ranged field r.1 applied
    rw [WireField.InRange,number field tagged] at range
    exact (numberRange tag).mp large range.2
  · have small : tag.toNat/8 < 2^32 := not_not.mp fun large => inside ((numberRange tag).mpr large)
    refine Outcome.Recognises.reject _ ?_ fun positive => ?_
    · rintro zero r ⟨field,contents,tagged,_,_,applied⟩
      have range := ranged field r.1 applied
      rw [WireField.InRange,number field tagged] at range
      exact (numberZero small).mp zero range.1
    · exact inRange (not_not.mp fun zero => positive ((numberZero small).mpr zero)) small

end Specs

namespace Auth

theorem takeSpec (data : Bytes) (length : Nat) :
    (take data length).Recognises fun r => Leaves data r.1 r.2 ∧ length = r.1.length := by
  unfold take
  refine Outcome.Recognises.reject _ ?_ fun enough => ?_
  · rintro short r ⟨split,sized⟩
    have lengths := congrArg List.length split
    rw [List.length_append] at lengths
    omega
  · refine (Outcome.Recognises.ok _).congr fun r => ?_
    constructor
    · rintro rfl
      exact ⟨(List.take_append_drop length data).symm,by rw [List.length_take]; omega⟩
    · rintro ⟨rfl,rfl⟩
      simp

theorem takeVarintTakes (shifts : List Nat) (data : Bytes) (value : UInt64) :
    takeVarintLoop shifts data value =
      Varint.take "truncated protobuf field" "protobuf varint overflow" shifts data value := by
  induction shifts generalizing data value with
  | nil => rfl
  | cons shift shifts ih =>
    cases data with
    | nil => rfl
    | cons byte rest => simp [takeVarintLoop,take,Varint.take,ih]

theorem takeVarintSpec (data : Bytes) :
    (takeVarint data).Recognises fun r => ∃ raw, Leaves data raw r.2 ∧ Varint.Word raw r.1 := by
  rw [takeVarint,takeVarintTakes]
  exact Varint.takeSpec ..

theorem takeFixed (data : Bytes) (length : Nat) :
    (take data length >>= fun r => .ok r.2).Recognises fun rest => ∃ raw, Leaves data raw rest ∧ raw.length = length := by
  refine ((takeSpec data length).map Prod.snd).congr fun rest => ?_
  constructor
  · rintro ⟨⟨raw,_⟩,⟨split,sized⟩,rfl⟩
    exact ⟨raw,split,sized.symm⟩
  · rintro ⟨raw,split,sized⟩
    exact ⟨(raw,rest),⟨split,sized.symm⟩,rfl⟩

theorem takeDelimited (data : Bytes) :
    (takeVarint data >>= fun length => take length.2 length.1.toNat).Recognises fun r =>
      ∃ raw, Leaves data raw r.2 ∧ Delimited r.1 raw :=
  readsDelimited leavesAppend (takeVarintSpec data) fun r _ => takeSpec r.2 r.1.toNat

def push (fields : Fields) (field : WireField) : Option Fields :=
  if field.InRange then some (fields ++ field.kept.toList) else none

theorem parseFieldSpec (data : Bytes) (fields : Fields) : (parseField data fields).Recognises fun r =>
    ∃ (field : WireField) (raw : Bytes), field.Wire raw ∧ Leaves data raw r.2 ∧ push fields field = some r.1 := by
  refine readsField leavesAppend (takeVarintSpec data) ?_
  rintro ⟨tag,data⟩
  refine takesChecked _ _ (fun field u pushed => ?_) fun positive small => ?_
  · unfold push at pushed
    split at pushed
    · assumption
    · contradiction
  · have pushed (field : WireField) (number : field.number = tag.toNat/8) :
        push fields field = some (fields ++ field.kept.toList) :=
      if_pos ⟨by rw [number]; exact positive,by rw [number]; exact small⟩
    simp only [parseValue,wireOf,numberOf]
    split
    case h_1 kind =>
      exact takesVarint kind (takeVarintSpec data) fun value => pushed (.varint _ value) rfl
    case h_2 kind =>
      have fixed := takesFixed64 kind (takeFixed data 8) fun raw => (pushed (.fixed64 _ raw) rfl).trans
        (congrArg some (List.append_nil fields))
      simpa only [Outcome.bindAssoc,Outcome.okBind] using fixed
    case h_3 kind =>
      have delimited := takesBytes kind (takeDelimited data) fun contents => pushed (.lengthDelimited _ contents) rfl
      simpa only [Outcome.bindAssoc,Outcome.okBind,WireField.kept,Option.toList] using delimited
    case h_4 kind =>
      have fixed := takesFixed32 kind (takeFixed data 4) fun raw => (pushed (.fixed32 _ raw) rfl).trans
        (congrArg some (List.append_nil fields))
      simpa only [Outcome.bindAssoc,Outcome.okBind] using fixed
    case h_5 zero one two five => exact takesNothing _ zero one two five

theorem parseFieldsSpec (data : Bytes) :
    (parseFields data).Recognises (Composed data WireField.Wire push []) :=
  walkRecognises WireField.wireNonempty parseFieldSpec (le_refl data.length) []

end Auth

namespace AndroidTv

theorem takeVarintTakes (shifts : List Nat) (bytes : Bytes) (value : UInt64) :
    takeVarintLoop shifts bytes value = Varint.take () () shifts bytes value := by
  induction shifts generalizing bytes value with
  | nil => rfl
  | cons shift shifts ih =>
    cases bytes with
    | nil => rfl
    | cons byte rest => simp [takeVarintLoop,Varint.take,ih]

theorem takeVarintSpec (bytes : Bytes) :
    (takeVarint bytes).Recognises fun r => ∃ raw, Leaves bytes raw r.2 ∧ Varint.Word raw r.1 := by
  rw [takeVarint,takeVarintTakes]
  exact Varint.takeSpec ..

theorem getFromSpec (bytes : Bytes) (length : Nat) :
    (getFrom bytes length).Recognises fun rest => ∃ raw, Leaves bytes raw rest ∧ raw.length = length := by
  unfold getFrom
  refine Outcome.Recognises.reject _ ?_ fun enough => ?_
  · rintro short rest ⟨raw,split,sized⟩
    have lengths := congrArg List.length split
    rw [List.length_append] at lengths
    omega
  · refine (Outcome.Recognises.ok _).congr fun rest => ?_
    constructor
    · rintro rfl
      exact ⟨bytes.take length,(List.take_append_drop length bytes).symm,by rw [List.length_take]; omega⟩
    · rintro ⟨raw,rfl,rfl⟩
      simp

theorem skipDelimited (bytes : Bytes) :
    (takeVarint bytes >>= fun length => getFrom length.2 length.1.toNat >>= fun rest =>
      .ok (length.2.take length.1.toNat,rest)).Recognises fun r => ∃ raw, Leaves bytes raw r.2 ∧ Delimited r.1 raw := by
  refine readsDelimited leavesAppend (takeVarintSpec bytes) fun r _ => ?_
  refine ((getFromSpec r.2 r.1.toNat).map fun rest => (r.2.take r.1.toNat,rest)).congr ?_
  rintro ⟨contents,rest⟩
  constructor
  · rintro ⟨_,⟨raw,split,sized⟩,same⟩
    cases same
    have head : r.2.take r.1.toNat = raw := by rw [split,← sized,List.take_left]
    exact ⟨by rw [head]; exact split,by rw [head]; exact sized.symm⟩
  · rintro ⟨split,sized⟩
    have split : r.2 = contents ++ rest := split
    exact ⟨rest,⟨contents,split,sized.symm⟩,by rw [split,sized,List.take_left]⟩

def note (fields : List UInt32) (field : WireField) : Option (List UInt32) :=
  if field.InRange then some (fields ++ [UInt32.ofNat field.number]) else none

theorem fieldNumberSpec (bytes : Bytes) (fields : List UInt32) : (fieldNumber bytes fields).Recognises fun r =>
    ∃ (field : WireField) (raw : Bytes), field.Wire raw ∧ Leaves bytes raw r.2 ∧ note fields field = some r.1 := by
  refine readsField leavesAppend (takeVarintSpec bytes) ?_
  rintro ⟨tag,bytes⟩
  refine takesChecked _ _ (fun field u noted => ?_) fun positive small => ?_
  · unfold note at noted
    split at noted
    · assumption
    · contradiction
  · have noted (field : WireField) (number : field.number = tag.toNat/8) :
        note fields field = some (fields ++ [UInt32.ofNat (tag.toNat/8)]) :=
      (if_pos ⟨by rw [number]; exact positive,by rw [number]; exact small⟩).trans (by rw [number])
    simp only [skipValue,wireOf,numberOf]
    split
    case h_1 kind =>
      have varint := takesVarint kind (takeVarintSpec bytes) fun value => noted (.varint _ value) rfl
      simpa only [Outcome.bindAssoc,Outcome.okBind] using varint
    case h_2 kind => exact takesFixed64 kind (getFromSpec bytes 8) fun raw => noted (.fixed64 _ raw) rfl
    case h_3 kind =>
      have delimited := takesBytes kind (skipDelimited bytes) fun contents => noted (.lengthDelimited _ contents) rfl
      simpa only [Outcome.bindAssoc,Outcome.okBind] using delimited
    case h_4 kind => exact takesFixed32 kind (getFromSpec bytes 4) fun raw => noted (.fixed32 _ raw) rfl
    case h_5 zero one two five => exact takesNothing _ zero one two five

theorem topLevelFieldNumbersSpec (bytes : Bytes) :
    (topLevelFieldNumbers bytes).Recognises (Composed bytes WireField.Wire note []) :=
  walkRecognises WireField.wireNonempty fieldNumberSpec (le_refl bytes.length) []

end AndroidTv

end Chromiacast
