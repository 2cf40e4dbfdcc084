import Chromiacast.Basis.Scan
import Chromiacast.Basis.Varint

/-! Protobuf fields on the wire. A reader holds a cursor, a position or what is left
of a slice; `Passes` says which bytes lie between two cursors. A reader of tags and
contents then reads fields, whatever its cursor is, and the bytes of a sequence of
fields fall apart in one way only. -/
namespace Chromiacast
open Basis

def Delimited (contents raw : Bytes) : Prop :=
  ∃ lengthRaw length, Varint.Word lengthRaw length ∧ length.toNat = contents.length ∧ raw = lengthRaw ++ contents

/- The fields of a protobuf message, with the whole field number. -/
inductive WireField where
  | varint (number : Nat) (value : UInt64)
  | fixed64 (number : Nat) (raw : Bytes)
  | lengthDelimited (number : Nat) (contents : Bytes)
  | fixed32 (number : Nat) (raw : Bytes)
  deriving DecidableEq, Repr

namespace WireField

def number : WireField → Nat
  | varint n _ => n
  | fixed64 n _ => n
  | lengthDelimited n _ => n
  | fixed32 n _ => n

def wireType : WireField → Nat
  | varint _ _ => 0
  | fixed64 _ _ => 1
  | lengthDelimited _ _ => 2
  | fixed32 _ _ => 5

def Contents : WireField → Bytes → Prop
  | varint _ value,raw => Varint.Word raw value
  | fixed64 _ contents,raw => raw = contents ∧ contents.length = 8
  | lengthDelimited _ contents,raw => Delimited contents raw
  | fixed32 _ contents,raw => raw = contents ∧ contents.length = 4

def Wire (field : WireField) (raw : Bytes) : Prop :=
  ∃ tagRaw tag contents, raw = tagRaw ++ contents ∧ Varint.Word tagRaw tag ∧
    tag.toNat = 8*field.number+field.wireType ∧ field.Contents contents

theorem wireNonempty (field : WireField) (raw : Bytes) (wire : field.Wire raw) : 0 < raw.length := by
  obtain ⟨tagRaw,tag,contents,rfl,word,_⟩ := wire
  have some' := word.complete.nonempty
  rw [List.length_append]
  omega

end WireField

section Cursor
variable {ε σ κ : Type} {tag : UInt64}

theorem tagKind {field : WireField} (tagged : tag.toNat = 8*field.number+field.wireType) :
    (tag.toNat%8 = 0 ∧ ∃ value, field = .varint (tag.toNat/8) value) ∨
    (tag.toNat%8 = 1 ∧ ∃ raw, field = .fixed64 (tag.toNat/8) raw) ∨
    (tag.toNat%8 = 2 ∧ ∃ contents, field = .lengthDelimited (tag.toNat/8) contents) ∨
    (tag.toNat%8 = 5 ∧ ∃ raw, field = .fixed32 (tag.toNat/8) raw) := by
  cases field with
  | varint n value =>
    obtain ⟨kind,rfl⟩ : tag.toNat%8 = 0 ∧ tag.toNat/8 = n := by
      simp only [WireField.number,WireField.wireType] at tagged
      omega
    exact Or.inl ⟨kind,value,rfl⟩
  | fixed64 n raw =>
    obtain ⟨kind,rfl⟩ : tag.toNat%8 = 1 ∧ tag.toNat/8 = n := by
      simp only [WireField.number,WireField.wireType] at tagged
      omega
    exact Or.inr (Or.inl ⟨kind,raw,rfl⟩)
  | lengthDelimited n contents =>
    obtain ⟨kind,rfl⟩ : tag.toNat%8 = 2 ∧ tag.toNat/8 = n := by
      simp only [WireField.number,WireField.wireType] at tagged
      omega
    exact Or.inr (Or.inr (Or.inl ⟨kind,contents,rfl⟩))
  | fixed32 n raw =>
    obtain ⟨kind,rfl⟩ : tag.toNat%8 = 5 ∧ tag.toNat/8 = n := by
      simp only [WireField.number,WireField.wireType] at tagged
      omega
    exact Or.inr (Or.inr (Or.inr ⟨kind,raw,rfl⟩))

theorem tagOf {field : WireField} (number : field.number = tag.toNat/8) (kind : tag.toNat%8 = field.wireType) :
    tag.toNat = 8*field.number+field.wireType := by
  omega

def Takes (Passes : κ → Bytes → κ → Prop) (apply : WireField → Option σ) (tag : UInt64) (c : κ) (r : σ × κ) : Prop :=
  ∃ (field : WireField) (contents : Bytes), tag.toNat = 8*field.number+field.wireType ∧ field.Contents contents ∧
    Passes c contents r.2 ∧ apply field = some r.1

variable {Passes : κ → Bytes → κ → Prop} {apply : WireField → Option σ} {c : κ}

theorem takesVarint {reader : Outcome ε (UInt64 × κ)} {g : UInt64 → σ} (kind : tag.toNat%8 = 0)
    (reads : reader.Recognises fun r => ∃ raw, Passes c raw r.2 ∧ Varint.Word raw r.1)
    (applied : ∀ value, apply (.varint (tag.toNat/8) value) = some (g value)) :
    (reader >>= fun r => .ok (g r.1,r.2)).Recognises (Takes Passes apply tag c) := by
  refine (reads.map fun r => (g r.1,r.2)).congr ?_
  rintro ⟨h,last⟩
  constructor
  · rintro ⟨⟨value,_⟩,⟨raw,spans,word⟩,same⟩
    cases same
    exact ⟨.varint (tag.toNat/8) value,raw,tagOf rfl kind,word,spans,applied value⟩
  · rintro ⟨field,contents,tagged,formed,spans,result⟩
    obtain ⟨_,value,rfl⟩ | ⟨other,_⟩ | ⟨other,_⟩ | ⟨other,_⟩ := tagKind tagged
    · cases Option.some.inj ((applied value).symm.trans result)
      exact ⟨(value,last),⟨contents,spans,formed⟩,rfl⟩
    all_goals omega

/- The contents may have to be of some form, as those of a string are. -/
theorem takesParsed {α : Type} {reader : Outcome ε (α × κ)} {parse : Bytes → Option α} {g : α → σ}
    (kind : tag.toNat%8 = 2)
    (reads : reader.Recognises fun r => ∃ contents raw, Passes c raw r.2 ∧ Delimited contents raw ∧
      parse contents = some r.1)
    (applied : ∀ contents, apply (.lengthDelimited (tag.toNat/8) contents) = (parse contents).map g) :
    (reader >>= fun r => .ok (g r.1,r.2)).Recognises (Takes Passes apply tag c) := by
  refine (reads.map fun r => (g r.1,r.2)).congr ?_
  rintro ⟨h,last⟩
  constructor
  · rintro ⟨⟨value,_⟩,⟨contents,raw,spans,delimited,parsed⟩,same⟩
    cases same
    exact ⟨.lengthDelimited (tag.toNat/8) contents,raw,tagOf rfl kind,delimited,spans,by rw [applied,parsed]; rfl⟩
  · rintro ⟨field,raw,tagged,formed,spans,result⟩
    obtain ⟨other,_⟩ | ⟨other,_⟩ | ⟨_,contents,rfl⟩ | ⟨other,_⟩ := tagKind tagged
    · omega
    · omega
    · rw [applied,Option.map_eq_some_iff] at result
      obtain ⟨value,parsed,rfl⟩ := result
      exact ⟨(value,last),⟨contents,raw,spans,formed,parsed⟩,rfl⟩
    · omega

theorem takesBytes {reader : Outcome ε (Bytes × κ)} {g : Bytes → σ} (kind : tag.toNat%8 = 2)
    (reads : reader.Recognises fun r => ∃ raw, Passes c raw r.2 ∧ Delimited r.1 raw)
    (applied : ∀ contents, apply (.lengthDelimited (tag.toNat/8) contents) = some (g contents)) :
    (reader >>= fun r => .ok (g r.1,r.2)).Recognises (Takes Passes apply tag c) := by
  have parsed : reader.Recognises fun r => ∃ contents raw, Passes c raw r.2 ∧ Delimited contents raw ∧
      some contents = some r.1 := by
    refine reads.congr fun r => ?_
    constructor
    · rintro ⟨raw,passes,delimited⟩
      exact ⟨r.1,raw,passes,delimited,rfl⟩
    · rintro ⟨contents,raw,passes,delimited,same⟩
      cases Option.some.inj same
      exact ⟨raw,passes,delimited⟩
  exact takesParsed kind parsed applied

theorem takesFixed64 {reader : Outcome ε κ} {u : σ} (kind : tag.toNat%8 = 1)
    (reads : reader.Recognises fun last => ∃ raw, Passes c raw last ∧ raw.length = 8)
    (applied : ∀ raw, apply (.fixed64 (tag.toNat/8) raw) = some u) :
    (reader >>= fun last => .ok (u,last)).Recognises (Takes Passes apply tag c) := by
  refine (reads.map fun last => (u,last)).congr ?_
  rintro ⟨h,last⟩
  constructor
  · rintro ⟨_,⟨raw,spans,sized⟩,same⟩
    cases same
    exact ⟨.fixed64 (tag.toNat/8) raw,raw,tagOf rfl kind,⟨rfl,sized⟩,spans,applied raw⟩
  · rintro ⟨field,raw,tagged,formed,spans,result⟩
    obtain ⟨other,_⟩ | ⟨_,contents,rfl⟩ | ⟨other,_⟩ | ⟨other,_⟩ := tagKind tagged
    · omega
    · cases Option.some.inj ((applied contents).symm.trans result)
      exact ⟨last,⟨raw,spans,by rw [formed.1]; exact formed.2⟩,rfl⟩
    all_goals omega

theorem takesFixed32 {reader : Outcome ε κ} {u : σ} (kind : tag.toNat%8 = 5)
    (reads : reader.Recognises fun last => ∃ raw, Passes c raw last ∧ raw.length = 4)
    (applied : ∀ raw, apply (.fixed32 (tag.toNat/8) raw) = some u) :
    (reader >>= fun last => .ok (u,last)).Recognises (Takes Passes apply tag c) := by
  refine (reads.map fun last => (u,last)).congr ?_
  rintro ⟨h,last⟩
  constructor
  · rintro ⟨_,⟨raw,spans,sized⟩,same⟩
    cases same
    exact ⟨.fixed32 (tag.toNat/8) raw,raw,tagOf rfl kind,⟨rfl,sized⟩,spans,applied raw⟩
  · rintro ⟨field,raw,tagged,formed,spans,result⟩
    obtain ⟨other,_⟩ | ⟨other,_⟩ | ⟨other,_⟩ | ⟨_,contents,rfl⟩ := tagKind tagged
    · omega
    · omega
    · omega
    · cases Option.some.inj ((applied contents).symm.trans result)
      exact ⟨last,⟨raw,spans,by rw [formed.1]; exact formed.2⟩,rfl⟩

theorem takesNothing (e : ε) (zero : tag.toNat%8 ≠ 0) (one : tag.toNat%8 ≠ 1) (two : tag.toNat%8 ≠ 2)
    (five : tag.toNat%8 ≠ 5) : (Outcome.err e : Outcome ε (σ × κ)).Recognises (Takes Passes apply tag c) := by
  refine Outcome.Recognises.err _ fun r => ?_
  rintro ⟨field,contents,tagged,_⟩
  obtain ⟨kind,_⟩ | ⟨kind,_⟩ | ⟨kind,_⟩ | ⟨kind,_⟩ := tagKind tagged
  · exact zero kind
  · exact one kind
  · exact two kind
  · exact five kind

section Joined
variable (join : ∀ {c d : κ} {a b : Bytes}, Passes c (a ++ b) d ↔ ∃ m, Passes c a m ∧ Passes m b d)
include join

theorem readsDelimited {reader : Outcome ε (UInt64 × κ)} {get : UInt64 × κ → Outcome ε (Bytes × κ)}
    (reads : reader.Recognises fun r => ∃ raw, Passes c raw r.2 ∧ Varint.Word raw r.1)
    (gets : ∀ r, (∃ raw, Passes c raw r.2 ∧ Varint.Word raw r.1) → (get r).Recognises fun s =>
      Passes r.2 s.1 s.2 ∧ r.1.toNat = s.1.length) :
    (reader >>= get).Recognises fun s => ∃ raw, Passes c raw s.2 ∧ Delimited s.1 raw := by
  refine Outcome.Recognises.congr (reads.bind gets) ?_
  rintro ⟨contents,last⟩
  constructor
  · rintro ⟨⟨length,next⟩,⟨lengthRaw,first,word⟩,after,sized⟩
    exact ⟨lengthRaw ++ contents,join.mpr ⟨_,first,after⟩,lengthRaw,length,word,sized,rfl⟩
  · rintro ⟨raw,passes,lengthRaw,length,word,sized,rfl⟩
    obtain ⟨next,first,after⟩ := join.mp passes
    exact ⟨(length,next),⟨lengthRaw,first,word⟩,after,sized⟩

theorem readsField {reader : Outcome ε (UInt64 × κ)} {rest : UInt64 × κ → Outcome ε (σ × κ)}
    (reads : reader.Recognises fun r => ∃ raw, Passes c raw r.2 ∧ Varint.Word raw r.1)
    (takes : ∀ r, (rest r).Recognises (Takes Passes apply r.1 r.2)) :
    (reader >>= rest).Recognises fun r =>
      ∃ (field : WireField) (raw : Bytes), field.Wire raw ∧ Passes c raw r.2 ∧ apply field = some r.1 := by
  refine Outcome.Recognises.congr (reads.bind fun r _ => takes r) ?_
  rintro ⟨g,last⟩
  constructor
  · rintro ⟨⟨tag,next⟩,⟨tagRaw,first,word⟩,field,contents,tagged,formed,after,applied⟩
    exact ⟨field,tagRaw ++ contents,⟨tagRaw,tag,contents,rfl,word,tagged,formed⟩,
      join.mpr ⟨next,first,after⟩,applied⟩
  · rintro ⟨field,raw,⟨tagRaw,tag,contents,rfl,word,tagged,formed⟩,spans,applied⟩
    obtain ⟨next,first,after⟩ := join.mp spans
    exact ⟨(tag,next),⟨tagRaw,first,word⟩,field,contents,tagged,formed,after,applied⟩

end Joined

end Cursor

section Unique

theorem delimitedUnique {a b c d x y : Bytes} (left : Delimited c a) (right : Delimited d b) (same : a ++ x = b ++ y) :
    c = d ∧ a = b ∧ x = y := by
  obtain ⟨_,_,word,sized,rfl⟩ := left
  obtain ⟨_,_,word',sized',rfl⟩ := right
  rw [List.append_assoc,List.append_assoc] at same
  obtain ⟨rfl,rfl,rest⟩ := word.unique word' same
  obtain ⟨rfl,rfl⟩ := List.append_inj rest (sized.symm.trans sized')
  exact ⟨rfl,rfl,rfl⟩

theorem wireUnique {f g : WireField} {a b x y : Bytes} (left : f.Wire a) (right : g.Wire b) (same : a ++ x = b ++ y) :
    f = g ∧ a = b ∧ x = y := by
  obtain ⟨_,tag,c,rfl,word,tagged,formed⟩ := left
  obtain ⟨_,_,d,rfl,word',tagged',formed'⟩ := right
  rw [List.append_assoc,List.append_assoc] at same
  obtain ⟨rfl,rfl,rest⟩ := word.unique word' same
  obtain ⟨kind,v,rfl⟩ | ⟨kind,v,rfl⟩ | ⟨kind,v,rfl⟩ | ⟨kind,v,rfl⟩ := tagKind tagged
  all_goals
    obtain ⟨kind',w,rfl⟩ | ⟨kind',w,rfl⟩ | ⟨kind',w,rfl⟩ | ⟨kind',w,rfl⟩ := tagKind tagged'
    all_goals try omega
  · obtain ⟨rfl,rfl,rfl⟩ := Varint.Word.unique formed formed' rest
    exact ⟨rfl,rfl,rfl⟩
  · obtain ⟨rfl,eight⟩ := formed
    obtain ⟨rfl,eight'⟩ := formed'
    obtain ⟨rfl,rfl⟩ := List.append_inj rest (eight.trans eight'.symm)
    exact ⟨rfl,rfl,rfl⟩
  · obtain ⟨rfl,rfl,rfl⟩ := delimitedUnique formed formed' rest
    exact ⟨rfl,rfl,rfl⟩
  · obtain ⟨rfl,four⟩ := formed
    obtain ⟨rfl,four'⟩ := formed'
    obtain ⟨rfl,rfl⟩ := List.append_inj rest (four.trans four'.symm)
    exact ⟨rfl,rfl,rfl⟩

theorem wiresUnique {fields more : List WireField} {wires longer : List Bytes} {rest : Bytes}
    (formed : List.Forall₂ WireField.Wire fields wires) (formed' : List.Forall₂ WireField.Wire more longer)
    (same : wires.flatten ++ rest = longer.flatten) :
    ∃ tail tailWires, more = fields ++ tail ∧ List.Forall₂ WireField.Wire tail tailWires ∧
      rest = tailWires.flatten := by
  induction formed generalizing more longer with
  | nil => exact ⟨more,longer,rfl,formed',same⟩
  | @cons field raw fields wires wire formed ih =>
    cases formed' with
    | nil =>
      have some' := WireField.wireNonempty field raw wire
      have sized := congrArg List.length same
      simp only [List.flatten_cons,List.flatten_nil,List.length_append,List.length_nil] at sized
      omega
    | cons wire' formed' =>
      rw [List.flatten_cons,List.flatten_cons,List.append_assoc] at same
      obtain ⟨rfl,rfl,rests⟩ := wireUnique wire wire' same
      obtain ⟨tail,tailWires,rfl,last⟩ := ih formed' rests
      exact ⟨tail,tailWires,rfl,last⟩

end Unique

end Chromiacast
