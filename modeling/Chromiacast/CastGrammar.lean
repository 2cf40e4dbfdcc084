import Chromiacast.CastMessage
import Chromiacast.WireFields

/-! What the CastMessage reader accepts: well-formed protobuf fields side by side,
and nothing else. The reader is compared with a relation on the bytes, in both
directions, and the writer with the reader. Between any two fields another one can
stand without a trace, unless its number, cut to 32 bits, is one the reader looks for. -/
namespace Chromiacast
open Basis

section Readers
variable {data : Bytes}

def sliceVarint (data : Bytes) (groups done pos : Nat) (value : UInt64) : Outcome DecodeError (UInt64 × Nat) :=
  Varint.take .truncated .invalidVarint ((List.range' done groups).map (7*·)) (data.drop pos) value >>= fun r =>
    .ok (r.1,data.length-r.2.length)

theorem decodeVarintGroup {groups done : Nat} (next : ∀ pos value,
      (if 64 ≤ 7*done+7 then .err .invalidVarint else decodeVarintGroups data groups pos value (7*done+7)) =
        sliceVarint data groups (done+1) pos value) (pos : Nat) (value : UInt64) :
    decodeVarintGroups data (groups+1) pos value (7*done) = sliceVarint data (groups+1) done pos value := by
  unfold decodeVarintGroups sliceVarint
  rw [List.range'_succ,List.map_cons]
  by_cases beyond : data.length ≤ pos
  · rw [if_pos beyond,List.drop_eq_nil_of_le beyond]
    rfl
  · have inside : pos < data.length := by omega
    rw [if_neg beyond,indexIn inside,Outcome.okBind,List.drop_eq_getElem_cons inside]
    simp only [Varint.take,Outcome.iteBind,Outcome.errBind,Outcome.okBind]
    by_cases overflow : 7*done = 63 ∧ 1 < data[pos]
    · rw [if_pos overflow,if_pos overflow]
    · rw [if_neg overflow,if_neg overflow]
      by_cases stops : data[pos] &&& 0x80 = 0
      · rw [if_pos stops,if_pos stops,List.length_drop]
        congr 2
        omega
      · rw [if_neg stops,if_neg stops]
        exact next (pos+1) _

theorem decodeVarintSlices {groups done : Nat} (ten : done+groups = 9) (pos : Nat) (value : UInt64) :
    decodeVarintGroups data (groups+1) pos value (7*done) = sliceVarint data (groups+1) done pos value := by
  induction groups generalizing done pos value with
  | zero =>
    refine decodeVarintGroup (fun pos value => ?_) pos value
    rw [if_pos (by omega)]
    rfl
  | succ groups ih =>
    refine decodeVarintGroup (fun pos value => ?_) pos value
    have early : ¬ 64 ≤ 7*done+7 := by omega
    rw [if_neg early]
    exact ih (by omega : done+1+groups = 9) pos value

theorem decodeVarintSpec (pos : Nat) :
    (decodeVarint data pos).Recognises fun r => ∃ raw, Spans data pos raw r.2 ∧ Varint.Word raw r.1 := by
  have slices : decodeVarint data pos = sliceVarint data 10 0 pos 0 :=
    decodeVarintSlices (show 0+9 = 9 from rfl) pos 0
  rw [slices]
  have spec := Varint.takeSpec DecodeError.truncated .invalidVarint (data.drop pos)
  refine (spec.map fun r => (r.1,data.length-r.2.length)).congr ?_
  rintro ⟨value,last⟩
  constructor
  · rintro ⟨⟨value,rest⟩,⟨raw,split,word⟩,same⟩
    cases same
    have sized := congrArg List.length split
    have some' := word.complete.nonempty
    simp only [List.length_drop,List.length_append] at sized
    exact ⟨raw,⟨⟨rest,split.symm⟩,by simp only; omega⟩,word⟩
  · rintro ⟨raw,⟨⟨rest,split⟩,ends⟩,word⟩
    refine ⟨(value,rest),⟨raw,split.symm,word⟩,?_⟩
    have sized := congrArg List.length split
    have some' := word.complete.nonempty
    rw [List.length_drop,List.length_append] at sized
    simp only at ends ⊢
    congr 1
    omega

theorem decodeBytesSpec (pos : Nat) :
    (decodeBytes data pos).Recognises fun r => ∃ raw, Spans data pos raw r.2 ∧ Delimited r.1 raw := by
  refine readsDelimited Spans.appendIff (decodeVarintSpec pos) ?_
  rintro ⟨length,next⟩ ⟨lengthRaw,first,word⟩
  by_cases fits : next+length.toNat ≤ data.length
  · simp only [if_pos fits]
    refine (Outcome.Recognises.ok _).congr fun s => ?_
    constructor
    · rintro rfl
      exact ⟨Spans.slice fits,by rw [List.length_take,List.length_drop]; omega⟩
    · rintro ⟨spans,sized⟩
      exact Prod.ext (by rw [sized]; exact spans.sliceUnique) (by rw [sized]; exact spans.ends)
  · simp only [if_neg fits]
    refine Outcome.Recognises.err _ fun s => ?_
    rintro ⟨spans,sized⟩
    have within := first.bounded word.complete.nonempty
    have last := spans.inside within
    rw [spans.ends] at last
    omega

theorem decodeStringSpec (pos : Nat) :
    (decodeString data pos).Recognises fun r =>
      ∃ contents raw, Spans data pos raw r.2 ∧ Delimited contents raw ∧ fromUtf8 contents = some r.1 := by
  refine Outcome.Recognises.congr ((decodeBytesSpec pos).bind (S := fun r s => fromUtf8 r.1 = some s.1 ∧ s.2 = r.2)
    ?_) ?_
  · rintro ⟨contents,next⟩ _
    cases text : fromUtf8 contents with
    | none => exact Outcome.Recognises.err _ (by simp)
    | some s =>
      refine (Outcome.Recognises.ok _).congr fun t => ?_
      simp [Prod.ext_iff,eq_comm]
  · rintro ⟨s,last⟩
    constructor
    · rintro ⟨⟨contents,next⟩,⟨raw,spans,delimited⟩,text,rfl⟩
      exact ⟨contents,raw,spans,delimited,text⟩
    · rintro ⟨contents,raw,spans,delimited,text⟩
      exact ⟨(contents,last),⟨raw,spans,delimited⟩,text,rfl⟩

theorem skipBytesSpec {len : Nat} (some : 0 < len) (pos : Nat) :
    (skipBytes data pos len).Recognises fun next => ∃ raw, Spans data pos raw next ∧ raw.length = len := by
  unfold skipBytes
  apply Outcome.Recognises.reject
  · rintro beyond next ⟨raw,spans,sized⟩
    have within := spans.bounded (by omega)
    have ends := spans.ends
    omega
  · intro within
    refine (Outcome.Recognises.ok _).congr fun next => ?_
    constructor
    · rintro rfl
      exact ⟨_,Spans.slice (Nat.le_of_not_lt within),by rw [List.length_take,List.length_drop]; omega⟩
    · rintro ⟨raw,spans,rfl⟩
      exact spans.ends

end Readers

/- What a field does to the message. The number is cut to 32 bits first. -/
def Fields.apply (f : Fields) : WireField → Option Fields
  | .varint number value => some (if number%2^32 = 5 then {f with payloadType := value.toUInt32.toInt32} else f)
  | .lengthDelimited number contents =>
    match number%2^32 with
    | 2 => (fromUtf8 contents).map fun s => {f with sourceId := some s}
    | 3 => (fromUtf8 contents).map fun s => {f with destinationId := some s}
    | 4 => (fromUtf8 contents).map fun s => {f with nameSpace := some s}
    | 6 => (fromUtf8 contents).map fun s => {f with payloadUtf8 := some s}
    | 7 => some {f with payloadBinary := some contents}
    | _ => some f
  | .fixed64 _ _ => some f
  | .fixed32 _ _ => some f

section Tagged
variable {data : Bytes} {f : Fields} {tag : UInt64} {pos : Nat}

theorem fieldNumberValue (tag : UInt64) : (tag >>> 3).toUInt32.toNat = tag.toNat/8%2^32 := by
  rw [UInt64.toNat_toUInt32,UInt64.toNat_shiftRight]
  simp [Nat.shiftRight_eq_div_pow]

theorem wireTypeValue (tag : UInt64) : (tag &&& 0x07).toUInt8.toNat = tag.toNat%8 := by
  rw [UInt64.toNat_toUInt8,UInt64.toNat_and]
  have low := Nat.and_two_pow_sub_one_eq_mod tag.toNat 3
  simp only [UInt64.toNat_ofNat,Nat.reducePow,Nat.reduceMod,Nat.reduceSub] at low ⊢
  omega

theorem decodeTaggedSpec : (decodeTagged data f tag pos).Recognises (Takes (Spans data) f.apply tag pos) := by
  unfold decodeTagged
  simp only [fieldNumberValue,wireTypeValue]
  split
  case h_1 number kind =>
    exact takesVarint (g := fun _ => f) kind (decodeVarintSpec pos) fun _ => by rw [Fields.apply,number]; rfl
  case h_2 number kind =>
    refine takesParsed (g := fun s => {f with sourceId := some s}) kind (decodeStringSpec pos) fun _ => ?_
    rw [Fields.apply,number]
    rfl
  case h_3 number kind =>
    refine takesParsed (g := fun s => {f with destinationId := some s}) kind (decodeStringSpec pos) fun _ => ?_
    rw [Fields.apply,number]
    rfl
  case h_4 number kind =>
    refine takesParsed (g := fun s => {f with nameSpace := some s}) kind (decodeStringSpec pos) fun _ => ?_
    rw [Fields.apply,number]
    rfl
  case h_5 number kind =>
    refine takesVarint (g := fun v => {f with payloadType := v.toUInt32.toInt32}) kind (decodeVarintSpec pos) ?_
    intro value
    rw [Fields.apply,number]
    rfl
  case h_6 number kind =>
    refine takesParsed (g := fun s => {f with payloadUtf8 := some s}) kind (decodeStringSpec pos) fun _ => ?_
    rw [Fields.apply,number]
    rfl
  case h_7 number kind =>
    refine takesBytes (g := fun c => {f with payloadBinary := some c}) kind (decodeBytesSpec pos) ?_
    intro contents
    rw [Fields.apply,number]
    rfl
  case h_8 kind one five =>
    exact takesVarint (g := fun _ => f) kind (decodeVarintSpec pos) fun _ => by rw [Fields.apply,if_neg five]
  case h_9 kind two three four six seven =>
    exact takesBytes (g := fun _ => f) kind (decodeBytesSpec pos) fun _ => by
      simp only [Fields.apply]
  case h_10 kind => exact takesFixed32 kind (skipBytesSpec (by omega) pos) fun _ => rfl
  case h_11 kind => exact takesFixed64 kind (skipBytesSpec (by omega) pos) fun _ => rfl
  case h_12 zero two five one _ _ _ _ _ _ _ => exact takesNothing _ zero one two five

end Tagged

theorem decodeFieldSpec (data : Bytes) (pos : Nat) (f : Fields) :
    (decodeField data pos f).Recognises fun r =>
      ∃ (field : WireField) (raw : Bytes), field.Wire raw ∧ Spans data pos raw r.2 ∧ f.apply field = some r.1 :=
  readsField Spans.appendIff (decodeVarintSpec pos) fun _ => decodeTaggedSpec

def WellFormed (data : Bytes) (m : CastMessage) : Prop :=
  ∃ (fields : List WireField) (wires : List Bytes) (f : Fields), List.Forall₂ WireField.Wire fields wires ∧
    data = wires.flatten ∧ fields.foldlM Fields.apply {} = some f ∧ f.finish = .ok m

theorem finishTotal (f : Fields) : f.finish ≠ .panic := by
  unfold Fields.finish
  split <;> simp

theorem spansAll (data raw : Bytes) : Spans data 0 raw data.length ↔ data = raw := by
  constructor
  · rintro ⟨⟨rest,here⟩,ends⟩
    rw [List.drop_zero] at here
    have empty : rest = [] := by
      have sized := congrArg List.length here
      rw [List.length_append] at sized
      exact List.length_eq_zero_iff.mp (by omega)
    rw [← here,empty,List.append_nil]
  · rintro rfl
    exact ⟨⟨[],by simp⟩,by simp⟩

theorem decodeRecognises (data : Bytes) : (CastMessage.decode data).Recognises (WellFormed data) := by
  have loop := scanRecognises WireField.wireNonempty (fun pos f _ => decodeFieldSpec data pos f)
    (Nat.zero_le data.length) (by omega : data.length ≤ 0+data.length) ({} : Fields)
  refine Outcome.Recognises.congr (loop.bind (S := fun f m => f.finish = .ok m) ?_) ?_
  · rintro f -
    exact ⟨fun m => Iff.rfl,finishTotal f⟩
  · intro m
    constructor
    · rintro ⟨f,⟨fields,wires,formed,spans,folded⟩,finished⟩
      exact ⟨fields,wires,f,formed,(spansAll data _).mp spans,folded,finished⟩
    · rintro ⟨fields,wires,f,formed,whole,folded,finished⟩
      exact ⟨f,⟨fields,wires,formed,(spansAll data _).mpr whole,folded⟩,finished⟩

section RoundTrip

theorem fieldTag {field : UInt32} (small : field.toNat < 2^29) : (field.toUInt64 <<< 3).toNat = 2^3*field.toNat := by
  have three : (3 : UInt64).toNat%64 = 3 := rfl
  rw [UInt64.toNat_shiftLeft,UInt32.toNat_toUInt64,three,Nat.shiftLeft_eq]
  omega

theorem encodeVarintFieldWire (field : UInt32) (small : field.toNat < 2^29) (value : UInt64) :
    (WireField.varint field.toNat value).Wire (encodeVarintField field value) :=
  ⟨_,_,_,rfl,encodeVarintWord _,fieldTag small,encodeVarintWord value⟩

theorem encodeBytesFieldWire (field : UInt32) (small : field.toNat < 2^29) {contents : Bytes}
    (sized : contents.length < 2^64) :
    (WireField.lengthDelimited field.toNat contents).Wire (encodeBytesField field contents) := by
  refine ⟨_,_,_,List.append_assoc _ _ _,encodeVarintWord _,?_,_,_,encodeVarintWord _,?_,rfl⟩
  · have joined := Nat.two_pow_add_eq_or_of_lt (by omega : 2 < 2^3) field.toNat
    rw [UInt64.toNat_or,fieldTag small]
    exact joined.symm
  · rw [UInt64.toNat_ofNat']
    omega

def Payload.length : Payload → Nat
  | string s => (asBytes s).length
  | binary b => b.length

structure CastMessage.Sized (m : CastMessage) : Prop where
  source : (asBytes m.sourceId).length < 2^64
  destination : (asBytes m.destinationId).length < 2^64
  name : (asBytes m.nameSpace).length < 2^64
  payload : m.payload.length < 2^64

def Payload.fields : Payload → List WireField
  | string s => [.varint 5 0,.lengthDelimited 6 (asBytes s)]
  | binary b => [.varint 5 1,.lengthDelimited 7 b]

def CastMessage.fields (m : CastMessage) : List WireField :=
  [.varint 1 0,.lengthDelimited 2 (asBytes m.sourceId),.lengthDelimited 3 (asBytes m.destinationId),
    .lengthDelimited 4 (asBytes m.nameSpace)] ++ m.payload.fields

def CastMessage.locals (m : CastMessage) : Fields :=
  match m.payload with
  | .string s => ⟨some m.sourceId,some m.destinationId,some m.nameSpace,0,some s,none⟩
  | .binary b => ⟨some m.sourceId,some m.destinationId,some m.nameSpace,1,none,some b⟩

theorem fieldsRead (m : CastMessage) :
    m.fields.foldlM Fields.apply {} = some m.locals ∧ m.locals.finish = .ok m := by
  obtain ⟨source,destination,name,payload⟩ := m
  cases payload with
  | string s =>
    refine ⟨?_,rfl⟩
    simp [CastMessage.fields,Payload.fields,Fields.apply,CastMessage.locals]
  | binary b =>
    refine ⟨?_,rfl⟩
    simp [CastMessage.fields,Payload.fields,Fields.apply,CastMessage.locals]

def Payload.wires : Payload → List Bytes
  | string s => [encodeVarintField 5 0,encodeStringField 6 s]
  | binary b => [encodeVarintField 5 1,encodeBytesField 7 b]

theorem payloadWires {payload : Payload} (sized : payload.length < 2^64) :
    List.Forall₂ WireField.Wire payload.fields payload.wires := by
  cases payload with
  | string s =>
    exact .cons (encodeVarintFieldWire 5 (by decide) 0)
      (.cons (encodeBytesFieldWire 6 (by decide) sized) .nil)
  | binary b =>
    exact .cons (encodeVarintFieldWire 5 (by decide) 1)
      (.cons (encodeBytesFieldWire 7 (by decide) sized) .nil)

theorem encodeLaid {m : CastMessage} (sized : m.Sized) :
    ∃ wires : List Bytes, List.Forall₂ WireField.Wire m.fields wires ∧ m.encode = wires.flatten := by
  refine ⟨[encodeVarintField 1 0,encodeStringField 2 m.sourceId,encodeStringField 3 m.destinationId,
    encodeStringField 4 m.nameSpace] ++ m.payload.wires,?_,?_⟩
  · exact .cons (encodeVarintFieldWire 1 (by decide) 0)
      (.cons (encodeBytesFieldWire 2 (by decide) sized.source)
      (.cons (encodeBytesFieldWire 3 (by decide) sized.destination)
      (.cons (encodeBytesFieldWire 4 (by decide) sized.name) (payloadWires sized.payload))))
  · cases payload : m.payload <;> simp [CastMessage.encode,payload,Payload.wires]

theorem encodeWellFormed {m : CastMessage} (sized : m.Sized) : WellFormed m.encode m := by
  obtain ⟨folded,finished⟩ := fieldsRead m
  obtain ⟨wires,formed,whole⟩ := encodeLaid sized
  exact ⟨m.fields,wires,m.locals,formed,whole,folded,finished⟩

theorem decodeEncode {m : CastMessage} (sized : m.Sized) : CastMessage.decode m.encode = .ok m :=
  ((decodeRecognises m.encode).1 m).mpr (encodeWellFormed sized)

theorem castMessageCodec (m : CastMessage) (sized : m.Sized) (data : Bytes) :
    CastMessage.decode m.encode = .ok m ∧ CastMessage.decode data ≠ .panic ∧
      ∀ n, CastMessage.decode data = .ok n ↔ WellFormed data n :=
  ⟨decodeEncode sized,(decodeRecognises data).2,(decodeRecognises data).1⟩

def examplePing : CastMessage := ⟨"sender-0","receiver-0","urn:x-cast:com.google.cast.tp.heartbeat",.string "PING"⟩

theorem examplePingSized : examplePing.Sized := by
  constructor <;> decide

theorem castMessagePing : CastMessage.decode examplePing.encode = .ok examplePing ∧
    CastMessage.decode [0x07] ≠ .panic ∧ ∀ n, CastMessage.decode [0x07] = .ok n ↔ WellFormed [0x07] n :=
  castMessageCodec examplePing examplePingSized [0x07]

end RoundTrip

section Unknown

def FieldSequence (front : Bytes) : Prop :=
  ∃ (fields : List WireField) (wires : List Bytes), List.Forall₂ WireField.Wire fields wires ∧ front = wires.flatten

def WireField.Unknown : WireField → Prop
  | .varint number _ => number%2^32 ≠ 5
  | .lengthDelimited number _ => number%2^32 ∉ [2,3,4,6,7]
  | .fixed64 _ _ => True
  | .fixed32 _ _ => True

theorem unknownIgnored {field : WireField} (unknown : field.Unknown) (f : Fields) : f.apply field = some f := by
  cases field with
  | varint number value =>
    have other : number%2^32 ≠ 5 := unknown
    rw [Fields.apply,if_neg other]
  | lengthDelimited number contents =>
    have other : number%2^32 ∉ [2,3,4,6,7] := unknown
    simp only [List.mem_cons,List.not_mem_nil,or_false,not_or] at other
    obtain ⟨two,three,four,six,seven⟩ := other
    simp only [Fields.apply]
  | fixed64 number raw => rfl
  | fixed32 number raw => rfl

theorem insertWellFormed {front back raw : Bytes} {field : WireField} {fields tail : List WireField}
    {wires tailWires : List Bytes} {f : Fields} {m : CastMessage} (formed : List.Forall₂ WireField.Wire fields wires)
    (here : front = wires.flatten) (formed' : List.Forall₂ WireField.Wire tail tailWires)
    (after : back = tailWires.flatten) (wire : field.Wire raw)
    (folded : (fields ++ field::tail).foldlM Fields.apply {} = some f) (finished : f.finish = .ok m) :
    CastMessage.decode (front ++ raw ++ back) = .ok m := by
  refine ((decodeRecognises _).1 m).mpr ⟨fields ++ field::tail,wires ++ raw::tailWires,f,?_,?_,folded,finished⟩
  · exact List.rel_append formed (.cons wire formed')
  · rw [here,after]
    simp

theorem unknownInserted {front back raw : Bytes} {field : WireField} {m : CastMessage} (unknown : field.Unknown)
    (wire : field.Wire raw) (boundary : FieldSequence front) (accepted : CastMessage.decode (front ++ back) = .ok m) :
    CastMessage.decode (front ++ raw ++ back) = .ok m := by
  obtain ⟨all,longer,f,formed,whole,folded,finished⟩ := ((decodeRecognises _).1 m).mp accepted
  obtain ⟨fields,wires,before,rfl⟩ := boundary
  obtain ⟨tail,tailWires,rfl,after,rfl⟩ := wiresUnique before formed whole
  refine insertWellFormed before rfl after rfl wire ?_ finished
  simp only [List.foldlM_append,List.foldlM_cons,unknownIgnored unknown] at folded ⊢
  exact folded

theorem appendedApplies {m : CastMessage} (sized : m.Sized) {field : WireField} {raw : Bytes} (wire : field.Wire raw)
    (same : CastMessage.decode (m.encode ++ raw) = .ok m) :
    ∃ f, m.locals.apply field = some f ∧ f.finish = .ok m := by
  obtain ⟨wires,before,laid⟩ := encodeLaid sized
  obtain ⟨all,longer,f,formed,whole,folded,finished⟩ := ((decodeRecognises _).1 m).mp same
  have joined : (wires ++ [raw]).flatten ++ [] = longer.flatten := by
    rw [← whole,laid]
    simp
  obtain ⟨tail,tailWires,rfl,after,empty⟩ := wiresUnique (List.rel_append before (.cons wire .nil)) formed joined
  have nothing : tail = [] := by
    cases after with
    | nil => rfl
    | cons first _ =>
      have some' := WireField.wireNonempty _ _ first
      have sized := congrArg List.length empty
      simp only [List.flatten_cons,List.length_append,List.length_nil] at sized
      omega
  rw [nothing,List.append_nil,List.foldlM_append,(fieldsRead m).1] at folded
  exact ⟨f,by simpa using folded,finished⟩

def texts (s : String) : CastMessage := ⟨s,s,s,.string s⟩

def octet (b : UInt8) : CastMessage := ⟨"","","",.binary [b]⟩

theorem textKept {s : String} {number : Nat} {contents : Bytes} {f : Fields} (text : number%2^32 ∈ [2,3,4,6])
    (applied : (texts s).locals.apply (.lengthDelimited number contents) = some f) (finished : f.finish = .ok (texts s)) :
    fromUtf8 contents = some s := by
  simp only [List.mem_cons,List.not_mem_nil,or_false] at text
  rcases text with named | named | named | named <;>
  · simp only [Fields.apply,named,Option.map_eq_some_iff] at applied
    obtain ⟨t,read,rfl⟩ := applied
    have same : t = s := by simpa [Fields.finish,Fields.payload,texts,CastMessage.locals] using finished
    rw [read,same]

theorem octetKept {b : UInt8} {number : Nat} {contents : Bytes} {f : Fields} (seven : number%2^32 = 7)
    (applied : (octet b).locals.apply (.lengthDelimited number contents) = some f) (finished : f.finish = .ok (octet b)) :
    contents = [b] := by
  simp only [Fields.apply,seven,Option.some.injEq] at applied
  subst applied
  simpa [Fields.finish,Fields.payload,octet,CastMessage.locals] using finished

theorem knownChanges {field : WireField} (known : ¬ field.Unknown) :
    ∃ m ∈ [texts "a",texts "b",octet 0,octet 1], ∀ f, m.locals.apply field = some f → f.finish ≠ .ok m := by
  by_contra every
  simp only [List.mem_cons,List.not_mem_nil,or_false,exists_eq_or_imp,exists_eq_left,not_or,not_forall,
    not_not] at every
  obtain ⟨⟨a,textA,endA⟩,⟨b,textB,endB⟩,⟨c,octetC,endC⟩,d,octetD,endD⟩ := every
  cases field with
  | varint number value =>
    have five : number%2^32 = 5 := not_not.mp known
    simp only [Fields.apply,five,if_true,Option.some.injEq] at textA octetC
    subst textA octetC
    by_cases binary : value.toUInt32.toInt32 = 1
    · simp [Fields.finish,Fields.payload,texts,CastMessage.locals,binary] at endA
    · simp [Fields.finish,Fields.payload,octet,CastMessage.locals,binary] at endC
  | lengthDelimited number contents =>
    have one : number%2^32 ∈ [2,3,4,6,7] := not_not.mp known
    by_cases seven : number%2^32 = 7
    · exact absurd ((octetKept seven octetC endC).symm.trans (octetKept seven octetD endD)) (by decide)
    · have text : number%2^32 ∈ [2,3,4,6] := by
        simp only [List.mem_cons,List.not_mem_nil,or_false] at one ⊢
        omega
      exact absurd ((textKept text textA endA).symm.trans (textKept text textB endB)) (by decide)
  | fixed64 number raw => exact known trivial
  | fixed32 number raw => exact known trivial

theorem unknownFieldIgnored (raw : Bytes) (field : WireField) (wire : field.Wire raw) :
    (∀ (front back : Bytes) (m : CastMessage), FieldSequence front → CastMessage.decode (front ++ back) = .ok m →
      CastMessage.decode (front ++ raw ++ back) = .ok m) ↔ field.Unknown := by
  constructor
  · intro ignored
    by_contra known
    obtain ⟨m,listed,changes⟩ := knownChanges known
    have sized : m.Sized := by
      simp only [List.mem_cons,List.not_mem_nil,or_false] at listed
      rcases listed with rfl | rfl | rfl | rfl <;> constructor <;> decide
    obtain ⟨wires,formed,laid⟩ := encodeLaid sized
    have same := ignored m.encode [] m ⟨_,wires,formed,laid⟩ (by rw [List.append_nil]; exact decodeEncode sized)
    rw [List.append_nil] at same
    obtain ⟨f,applied,finished⟩ := appendedApplies sized wire same
    exact changes f applied finished
  · exact fun unknown front back m boundary accepted => unknownInserted unknown wire boundary accepted

theorem unknownFieldPing :
    CastMessage.decode (encodeBytesField 15 [0xFF] ++ examplePing.encode) = .ok examplePing :=
  (unknownFieldIgnored (encodeBytesField 15 [0xFF]) (.lengthDelimited 15 [0xFF])
    (encodeBytesFieldWire 15 (by decide) (by decide))).mpr (by simp [WireField.Unknown]) [] examplePing.encode
    examplePing ⟨[],[],.nil,rfl⟩ (decodeEncode examplePingSized)

/- Number 2^32+2 is read as number 2: the field replaces the source. -/
theorem wideNumberReplacesSource : ∃ (field : WireField) (raw : Bytes), field.Wire raw ∧ field.number = 2^32+2 ∧
    CastMessage.decode examplePing.encode = .ok examplePing ∧
    CastMessage.decode (examplePing.encode ++ raw) = .ok {examplePing with sourceId := "x"} := by
  have wire : (WireField.lengthDelimited (2^32+2) (asBytes "x")).Wire (encodeVarint 0x800000012 ++ ([1] ++ asBytes "x")) :=
    ⟨_,_,_,rfl,encodeVarintWord _,rfl,[1],1,⟨.last (by decide),by decide,rfl⟩,by decide,rfl⟩
  obtain ⟨wires,formed,whole⟩ := encodeLaid examplePingSized
  refine ⟨_,_,wire,rfl,decodeEncode examplePingSized,?_⟩
  have inserted := insertWellFormed (f := ⟨some "x",some examplePing.destinationId,some examplePing.nameSpace,0,
    some "PING",none⟩) (m := {examplePing with sourceId := "x"}) formed whole .nil rfl wire
    (by simp [CastMessage.fields,examplePing,Payload.fields,Fields.apply]) rfl
  rwa [List.flatten_nil,List.append_nil] at inserted

end Unknown

end Chromiacast
