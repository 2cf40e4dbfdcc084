import Chromiacast.Walkers

/-! The three protobuf walkers cut every byte string into the same fields. The two
slice walkers accept the same strings, and where they do the CastMessage reader is
an interpretation of the field list. -/
namespace Chromiacast
open Basis

theorem foldAppend {ι α : Type} {P : ι → Prop} [DecidablePred P] {g : ι → List α} (items : List ι) (s t : List α) :
    items.foldlM (fun s item => if P item then some (s ++ g item) else none) s = some t ↔
      (∀ item ∈ items, P item) ∧ t = s ++ items.flatMap g := by
  induction items generalizing s with
  | nil => simp [eq_comm]
  | cons item rest ih =>
    by_cases acceptable : P item
    · simp [acceptable,ih]
    · simp [acceptable]

theorem parseFieldsIff (data : Bytes) (fields : Auth.Fields) : Auth.parseFields data = .ok fields ↔
    ∃ (items : List WireField) (wires : List Bytes), List.Forall₂ WireField.Wire items wires ∧
      data = wires.flatten ∧ (∀ item ∈ items, item.InRange) ∧ fields = items.flatMap (fun item => item.kept.toList) := by
  rw [(Auth.parseFieldsSpec data).1 fields]
  have folds (items : List WireField) := foldAppend (P := WireField.InRange) (g := fun item => item.kept.toList)
    items [] fields
  exact exists_congr fun items => exists_congr fun wires => and_congr_right fun _ => and_congr_right fun _ => folds items

theorem topLevelIff (data : Bytes) (numbers : List UInt32) : AndroidTv.topLevelFieldNumbers data = .ok numbers ↔
    ∃ (items : List WireField) (wires : List Bytes), List.Forall₂ WireField.Wire items wires ∧
      data = wires.flatten ∧ (∀ item ∈ items, item.InRange) ∧
      numbers = items.map (fun item => UInt32.ofNat item.number) := by
  rw [(AndroidTv.topLevelFieldNumbersSpec data).1 numbers]
  have folds (items : List WireField) := foldAppend (P := WireField.InRange)
    (g := fun item => [UInt32.ofNat item.number]) items [] numbers
  refine exists_congr fun items => exists_congr fun wires => and_congr_right fun _ => and_congr_right fun _ => ?_
  rw [List.map_eq_flatMap]
  exact folds items

theorem sameFields {items others : List WireField} {wires others' : List Bytes}
    (formed : List.Forall₂ WireField.Wire items wires) (formed' : List.Forall₂ WireField.Wire others others')
    (same : wires.flatten = others'.flatten) : items = others := by
  obtain ⟨tail,tailWires,rfl,after,empty⟩ := wiresUnique formed formed' (by rw [List.append_nil]; exact same)
  cases after with
  | nil => exact (List.append_nil items).symm
  | cons wire rest =>
    have some' := WireField.wireNonempty _ _ wire
    have sized := congrArg List.length empty
    simp only [List.flatten_cons,List.length_append,List.length_nil] at sized
    omega

namespace Auth

def lastBytes (fields : Fields) (number : UInt32) : Option Bytes :=
  (fields.filterMap fun
    | (field,.bytes contents) => if field = number then some contents else none
    | (_,.varint _) => none).getLast?

def lastVarint (fields : Fields) (number : UInt32) : Option UInt64 :=
  (fields.filterMap fun
    | (field,.varint value) => if field = number then some value else none
    | (_,.bytes _) => none).getLast?

def textsValid (fields : Fields) : Bool :=
  fields.all fun
    | (field,.bytes contents) => decide (field ∉ [2,3,4,6]) || (fromUtf8 contents).isSome
    | (_,.varint _) => true

def interpret (fields : Fields) : Option CastMessage :=
  if textsValid fields then do
    let source ← (lastBytes fields 2).bind fromUtf8
    let destination ← (lastBytes fields 3).bind fromUtf8
    let name ← (lastBytes fields 4).bind fromUtf8
    some ⟨source,destination,name,
      if (lastVarint fields 5).map UInt64.toUInt32 = some 1 then .binary ((lastBytes fields 7).getD [])
      else .string (((lastBytes fields 6).bind fromUtf8).getD "")⟩
  else none

section Snoc
variable (fields : Fields) (field number : UInt32) (contents : Bytes) (value : UInt64)

@[simp] theorem lastBytesBytes : lastBytes (fields ++ [(field,.bytes contents)]) number =
    if field = number then some contents else lastBytes fields number := by
  unfold lastBytes
  split <;> simp_all

@[simp] theorem lastBytesVarint : lastBytes (fields ++ [(field,.varint value)]) number = lastBytes fields number := by
  simp [lastBytes]

@[simp] theorem lastVarintBytes : lastVarint (fields ++ [(field,.bytes contents)]) number = lastVarint fields number := by
  simp [lastVarint]

@[simp] theorem lastVarintVarint : lastVarint (fields ++ [(field,.varint value)]) number =
    if field = number then some value else lastVarint fields number := by
  unfold lastVarint
  split <;> simp_all

@[simp] theorem textsValidBytes : textsValid (fields ++ [(field,.bytes contents)]) =
    (textsValid fields && (decide (field ∉ [2,3,4,6]) || (fromUtf8 contents).isSome)) := by
  simp [textsValid]

@[simp] theorem textsValidVarint : textsValid (fields ++ [(field,.varint value)]) = textsValid fields := by
  simp [textsValid]

end Snoc

def collected (fields : Fields) : Chromiacast.Fields where
  sourceId := (lastBytes fields 2).bind fromUtf8
  destinationId := (lastBytes fields 3).bind fromUtf8
  nameSpace := (lastBytes fields 4).bind fromUtf8
  payloadType := ((lastVarint fields 5).map fun value => value.toUInt32.toInt32).getD 0
  payloadUtf8 := (lastBytes fields 6).bind fromUtf8
  payloadBinary := lastBytes fields 7

theorem applyCollected (item : WireField) {fields : Fields} (valid : textsValid fields) (f : Chromiacast.Fields) :
    (collected fields).apply item = some f ↔
      textsValid (fields ++ item.kept.toList) ∧ f = collected (fields ++ item.kept.toList) := by
  have number (n : Nat) (key : UInt32) : UInt32.ofNat n = key ↔ n%2^32 = key.toNat := by
    rw [← UInt32.toNat_inj,UInt32.toNat_ofNat']
  cases item with
  | varint n value =>
    have key := number n 5
    by_cases five : n%2^32 = 5
    · rw [Chromiacast.Fields.apply,if_pos five]
      simp [WireField.kept,collected,valid,key.mpr five,eq_comm]
    · have other : UInt32.ofNat n ≠ 5 := fun same => five (key.mp same)
      rw [Chromiacast.Fields.apply,if_neg five]
      simp [WireField.kept,collected,valid,other,eq_comm]
  | lengthDelimited n contents =>
    simp only [Chromiacast.Fields.apply]
    split
    case h_1 two =>
      have key := (number n 2).mpr two
      cases text : fromUtf8 contents <;> simp [WireField.kept,collected,valid,key,text,eq_comm]
    case h_2 three =>
      have key := (number n 3).mpr three
      cases text : fromUtf8 contents <;> simp [WireField.kept,collected,valid,key,text,eq_comm]
    case h_3 four =>
      have key := (number n 4).mpr four
      cases text : fromUtf8 contents <;> simp [WireField.kept,collected,valid,key,text,eq_comm]
    case h_4 six =>
      have key := (number n 6).mpr six
      cases text : fromUtf8 contents <;> simp [WireField.kept,collected,valid,key,text,eq_comm]
    case h_5 seven =>
      have key := (number n 7).mpr seven
      simp [WireField.kept,collected,valid,key,eq_comm]
    case h_6 two three four six seven =>
      have key (k : UInt32) (other : n%2^32 ≠ k.toNat) : UInt32.ofNat n ≠ k := fun same => other ((number n k).mp same)
      simp [WireField.kept,collected,valid,key 2 two,key 3 three,key 4 four,key 6 six,key 7 seven,eq_comm]
  | fixed64 n raw => simp [Chromiacast.Fields.apply,WireField.kept,valid,eq_comm]
  | fixed32 n raw => simp [Chromiacast.Fields.apply,WireField.kept,valid,eq_comm]

theorem foldCollected (items : List WireField) (f : Chromiacast.Fields) :
    items.foldlM Chromiacast.Fields.apply {} = some f ↔
      textsValid (items.flatMap fun item => item.kept.toList) ∧
      f = collected (items.flatMap fun item => item.kept.toList) := by
  induction items using List.reverseRecOn generalizing f with
  | nil => simp [textsValid,collected,lastBytes,lastVarint,eq_comm]
  | append_singleton items item ih =>
    rw [List.foldlM_append,List.flatMap_append,List.flatMap_singleton,Option.bind_eq_bind,Option.bind_eq_some_iff]
    simp only [List.foldlM_cons,List.foldlM_nil,bind_pure]
    constructor
    · rintro ⟨g,folded,applied⟩
      obtain ⟨valid,rfl⟩ := (ih g).mp folded
      exact (applyCollected item valid f).mp applied
    · rintro ⟨valid,rfl⟩
      have before : textsValid (items.flatMap fun item => item.kept.toList) := by
        rw [textsValid,List.all_append,Bool.and_eq_true] at valid
        exact valid.1
      exact ⟨_,(ih _).mpr ⟨before,rfl⟩,(applyCollected item before _).mpr ⟨valid,rfl⟩⟩

theorem payloadCollected (fields : Fields) : (collected fields).payload =
    if (lastVarint fields 5).map UInt64.toUInt32 = some 1 then .binary ((lastBytes fields 7).getD [])
    else .string (((lastBytes fields 6).bind fromUtf8).getD "") := by
  have one : (collected fields).payloadType = 1 ↔ (lastVarint fields 5).map UInt64.toUInt32 = some 1 := by
    simp only [collected]
    cases lastVarint fields 5 with
    | none => decide
    | some value =>
      simp only [Option.map_some,Option.getD_some,Option.some.injEq]
      refine ⟨fun same => ?_,fun same => by rw [same]; rfl⟩
      have back := congrArg Int32.toUInt32 same
      rw [UInt32.toUInt32_toInt32] at back
      exact back
  rw [Chromiacast.Fields.payload]
  by_cases binary : (lastVarint fields 5).map UInt64.toUInt32 = some 1
  · rw [if_pos (one.mpr binary),if_pos binary]
    rfl
  · rw [if_neg (fun same => binary (one.mp same)),if_neg binary]
    rfl

theorem finishCollected {fields : Fields} (valid : textsValid fields) (m : CastMessage) :
    (collected fields).finish = .ok m ↔ interpret fields = some m := by
  have payload := payloadCollected fields
  rw [interpret,if_pos valid,← payload]
  simp only [Chromiacast.Fields.finish]
  simp only [collected]
  cases (lastBytes fields 2).bind fromUtf8 with
  | none => simp
  | some source =>
    cases (lastBytes fields 3).bind fromUtf8 with
    | none => simp
    | some destination =>
      cases (lastBytes fields 4).bind fromUtf8 with
      | none => simp
      | some name => simp

end Auth

theorem walkersAgree (b : Bytes) :
    (AndroidTv.topLevelFieldNumbers b ≠ .panic ∧ Auth.parseFields b ≠ .panic ∧ CastMessage.decode b ≠ .panic) ∧
    ((∃ numbers, AndroidTv.topLevelFieldNumbers b = .ok numbers) ↔ ∃ fields, Auth.parseFields b = .ok fields) ∧
    (∀ numbers fields, AndroidTv.topLevelFieldNumbers b = .ok numbers → Auth.parseFields b = .ok fields →
      ∃ (items : List WireField) (wires : List Bytes), List.Forall₂ WireField.Wire items wires ∧
        b = wires.flatten ∧ numbers = items.map (fun item => UInt32.ofNat item.number) ∧
        fields = items.filterMap WireField.kept) ∧
    ∀ fields m, Auth.parseFields b = .ok fields →
      (CastMessage.decode b = .ok m ↔ Auth.interpret fields = some m) := by
  refine ⟨⟨(AndroidTv.topLevelFieldNumbersSpec b).2,(Auth.parseFieldsSpec b).2,(decodeRecognises b).2⟩,?_,?_,?_⟩
  · simp only [topLevelIff,parseFieldsIff]
    constructor
    · rintro ⟨_,items,wires,formed,whole,range,_⟩
      exact ⟨_,items,wires,formed,whole,range,rfl⟩
    · rintro ⟨_,items,wires,formed,whole,range,_⟩
      exact ⟨_,items,wires,formed,whole,range,rfl⟩
  · intro numbers fields top parsed
    obtain ⟨items,wires,formed,whole,_,rfl⟩ := (topLevelIff b numbers).mp top
    obtain ⟨others,others',formed',whole',_,rfl⟩ := (parseFieldsIff b fields).mp parsed
    obtain rfl := sameFields formed formed' (whole.symm.trans whole')
    exact ⟨items,wires,formed,whole,rfl,by rw [List.filterMap_eq_flatMap_toList]⟩
  · intro fields m parsed
    obtain ⟨items,wires,formed,whole,_,rfl⟩ := (parseFieldsIff b fields).mp parsed
    rw [(decodeRecognises b).1 m]
    constructor
    · rintro ⟨others,others',f,formed',whole',folded,finished⟩
      obtain rfl := sameFields formed formed' (whole.symm.trans whole')
      obtain ⟨valid,rfl⟩ := (Auth.foldCollected items f).mp folded
      exact (Auth.finishCollected valid m).mp finished
    · intro meaning
      have valid : Auth.textsValid (items.flatMap fun item => item.kept.toList) := by
        by_contra invalid
        rw [Auth.interpret,if_neg invalid] at meaning
        contradiction
      exact ⟨items,wires,_,formed,whole,(Auth.foldCollected items _).mpr ⟨valid,rfl⟩,
        (Auth.finishCollected valid m).mpr meaning⟩

end Chromiacast
