import Chromiacast.Basis.Scan
import Chromiacast.Basis.Varint

/-! The hand-written CastMessage codec. The writer appends; the reader moves a
position and checks every access. Later fields override earlier ones and unknown
fields are skipped. -/
namespace Chromiacast
open Basis

inductive Payload where
  | string (text : String)
  | binary (data : Bytes)
  deriving DecidableEq, Repr

structure CastMessage where
  sourceId : String
  destinationId : String
  nameSpace : String
  payload : Payload
  deriving DecidableEq, Repr

inductive DecodeError where
  | truncated
  | invalidVarint
  | invalidUtf8
  | unknownWireType (wireType : UInt8)
  | missingField (name : String)
  deriving DecidableEq, Repr

def DecodeError.display : DecodeError → String
  | truncated => "truncated protobuf"
  | invalidVarint => "invalid varint"
  | invalidUtf8 => "invalid UTF-8 in string field"
  | unknownWireType wireType => "unknown wire type " ++ toString wireType
  | missingField name => "missing required field: " ++ name

def asBytes (s : String) : Bytes := s.toUTF8.data.toList

def fromUtf8 (data : Bytes) : Option String := String.fromUTF8? ⟨data.toArray⟩

@[simp] theorem fromUtf8AsBytes (s : String) : fromUtf8 (asBytes s) = some s := by
  simp only [fromUtf8,asBytes,Array.toArray_toList,String.fromUTF8?]
  exact dif_pos s.isValidUTF8

def encodeVarintGroups : Nat → UInt64 → Bytes
  | 0,_ => []
  | groups+1,value =>
    if value < 0x80 then [value.toUInt8]
    else (value.toUInt8 &&& 0x7F ||| 0x80)::encodeVarintGroups groups (value >>> 7)

def encodeVarint (value : UInt64) : Bytes := encodeVarintGroups 10 value

def encodeVarintField (field : UInt32) (value : UInt64) : Bytes :=
  encodeVarint (field.toUInt64 <<< 3) ++ encodeVarint value

def encodeBytesField (field : UInt32) (data : Bytes) : Bytes :=
  encodeVarint (field.toUInt64 <<< 3 ||| 2) ++ encodeVarint (UInt64.ofNat data.length) ++ data

def encodeStringField (field : UInt32) (s : String) : Bytes := encodeBytesField field (asBytes s)

def CastMessage.encode (m : CastMessage) : Bytes :=
  encodeVarintField 1 0 ++ encodeStringField 2 m.sourceId ++ encodeStringField 3 m.destinationId ++
    encodeStringField 4 m.nameSpace ++
    match m.payload with
    | .string s => encodeVarintField 5 0 ++ encodeStringField 6 s
    | .binary b => encodeVarintField 5 1 ++ encodeBytesField 7 b

def decodeVarintGroups (data : Bytes) : Nat → Nat → UInt64 → Nat → Outcome DecodeError (UInt64 × Nat)
  | 0,_,_,_ => .panic
  | groups+1,pos,value,shift =>
    if data.length ≤ pos then .err .truncated else
      index data pos >>= fun byte =>
        if shift = 63 ∧ 1 < byte then .err .invalidVarint else
          let value := Varint.accumulate value shift byte
          if byte &&& 0x80 = 0 then .ok (value,pos+1) else
            if 64 ≤ shift+7 then .err .invalidVarint else decodeVarintGroups data groups (pos+1) value (shift+7)

def decodeVarint (data : Bytes) (pos : Nat) : Outcome DecodeError (UInt64 × Nat) :=
  decodeVarintGroups data 10 pos 0 0

def decodeBytes (data : Bytes) (pos : Nat) : Outcome DecodeError (Bytes × Nat) :=
  decodeVarint data pos >>= fun r =>
    -- a sum past usize::MAX is past the end of every slice, with the same error
    let last := r.2+r.1.toNat
    if last ≤ data.length then .ok ((data.drop r.2).take r.1.toNat,last) else .err .truncated

def skipBytes (data : Bytes) (pos len : Nat) : Outcome DecodeError Nat :=
  let last := pos+len
  if data.length < last then .err .truncated else .ok last

def decodeString (data : Bytes) (pos : Nat) : Outcome DecodeError (String × Nat) :=
  decodeBytes data pos >>= fun r =>
    match fromUtf8 r.1 with
    | some s => .ok (s,r.2)
    | none => .err .invalidUtf8

structure Fields where
  sourceId : Option String := none
  destinationId : Option String := none
  nameSpace : Option String := none
  payloadType : Int32 := 0
  payloadUtf8 : Option String := none
  payloadBinary : Option Bytes := none
  deriving DecidableEq, Repr

def decodeTagged (data : Bytes) (f : Fields) (tag : UInt64) (pos : Nat) : Outcome DecodeError (Fields × Nat) :=
  let fieldNumber := (tag >>> 3).toUInt32
  let wireType := (tag &&& 0x07).toUInt8
  match fieldNumber.toNat,wireType.toNat with
  | 1,0 => decodeVarint data pos >>= fun r => .ok (f,r.2)
  | 2,2 => decodeString data pos >>= fun r => .ok ({f with sourceId := some r.1},r.2)
  | 3,2 => decodeString data pos >>= fun r => .ok ({f with destinationId := some r.1},r.2)
  | 4,2 => decodeString data pos >>= fun r => .ok ({f with nameSpace := some r.1},r.2)
  | 5,0 => decodeVarint data pos >>= fun r => .ok ({f with payloadType := r.1.toUInt32.toInt32},r.2)
  | 6,2 => decodeString data pos >>= fun r => .ok ({f with payloadUtf8 := some r.1},r.2)
  | 7,2 => decodeBytes data pos >>= fun r => .ok ({f with payloadBinary := some r.1},r.2)
  | _,0 => decodeVarint data pos >>= fun r => .ok (f,r.2)
  | _,2 => decodeBytes data pos >>= fun r => .ok (f,r.2)
  | _,5 => skipBytes data pos 4 >>= fun next => .ok (f,next)
  | _,1 => skipBytes data pos 8 >>= fun next => .ok (f,next)
  | _,_ => .err (.unknownWireType wireType)

def decodeField (data : Bytes) (pos : Nat) (f : Fields) : Outcome DecodeError (Fields × Nat) :=
  decodeVarint data pos >>= fun r => decodeTagged data f r.1 r.2

def Fields.payload (f : Fields) : Payload :=
  if f.payloadType = 1 then .binary (f.payloadBinary.getD []) else .string (f.payloadUtf8.getD "")

def Fields.finish (f : Fields) : Outcome DecodeError CastMessage :=
  match f.sourceId,f.destinationId,f.nameSpace with
  | none,_,_ => .err (.missingField "source_id")
  | some _,none,_ => .err (.missingField "destination_id")
  | some _,some _,none => .err (.missingField "namespace")
  | some source,some destination,some name => .ok ⟨source,destination,name,f.payload⟩

def CastMessage.decode (data : Bytes) : Outcome DecodeError CastMessage :=
  scan data.length (decodeField data) data.length 0 {} >>= Fields.finish

section Encoder

theorem encodeVarintGroupsEq (groups : Nat) (value : UInt64) :
    encodeVarintGroups groups value = Varint.encode groups value.toNat := by
  induction groups generalizing value with
  | zero => rfl
  | succ groups ih =>
    simp only [encodeVarintGroups,Varint.encode,ih,Varint.shiftGroup]
    by_cases small : value.toNat < 128
    · have narrow : value < 0x80 := UInt64.lt_iff_toNat_lt.mpr small
      rw [if_pos narrow,if_pos small]
      simp
    · have wide : ¬ value < 0x80 := fun less => small (UInt64.lt_iff_toNat_lt.mp less)
      have low : (value.toUInt8 &&& 0x7F).toNat = value.toNat%128 := by
        rw [Varint.group,UInt64.toNat_toUInt8]
        omega
      rw [if_neg wide,if_neg small,Varint.markMore low]

theorem encodeVarintWord (value : UInt64) : Varint.Word (encodeVarint value) value := by
  rw [encodeVarint,encodeVarintGroupsEq]
  exact Varint.encodeWord value

end Encoder

end Chromiacast
