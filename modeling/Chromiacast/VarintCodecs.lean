import Chromiacast.TvFraming
import Chromiacast.Walkers

/-! One number format, three encoders and four decoders. Two decoders shrink a slice,
one moves a position, and the length loop of the frame reader takes a byte a read; each
accepts exactly the numbers of the format. -/
namespace Chromiacast
open Basis

def Auth.encodeVarint (value : UInt64) : Bytes := TvFraming.encodeVarintGroups 10 value

theorem encodersAgree (value : UInt64) :
    Auth.encodeVarint value = encodeVarint value ∧ TvFraming.encodeVarint value = encodeVarint value := by
  have loops : TvFraming.encodeVarintGroups 10 value = encodeVarintGroups 10 value := by
    rw [TvFraming.encodeVarintGroupsEq,encodeVarintGroupsEq]
  exact ⟨loops,loops⟩

namespace TvFraming.FramedReader

inductive Follows : Turn IoError Unit × FramedReader × List Poll → Outcome Unit (UInt64 × Bytes) → Prop
  | ok {t : FramedReader} {polls : List Poll} {rest : Bytes} (left : Poll.Delivers polls rest) :
      Follows (.returned (.ok ()),t,polls) (.ok (t.length,rest))
  | err (e : IoError) (t : FramedReader) (polls : List Poll) : Follows (.returned (.err e),t,polls) (.err ())

theorem readLengthFollows {groups done : Nat} (ten : done+groups = 9) {r : FramedReader} {polls : List Poll}
    {data : Bytes} (place : r.lengthShift = 7*done) (delivers : Poll.Delivers polls data) :
    Follows (readLength (groups+1) r polls)
      (Varint.take () () ((List.range' done (groups+1)).map (7*·)) data r.length) := by
  induction groups generalizing done r polls data with
  | zero =>
    have last : done = 9 := by omega
    subst last
    cases data with
    | nil =>
      obtain ⟨rest,closed⟩ := Poll.readClosed 1 delivers
      simp only [readLength,closed]
      exact .err ..
    | cons b data =>
      obtain ⟨rest,got,left⟩ := Poll.readByte delivers
      simp only [readLength,got,place,List.range'_succ,List.map_cons,Varint.take]
      split
      · exact .err ..
      · split
        · exact .ok left
        · exact .err ..
  | succ groups ih =>
    cases data with
    | nil =>
      obtain ⟨rest,closed⟩ := Poll.readClosed 1 delivers
      rw [readLength]
      simp only [closed]
      exact .err ..
    | cons b data =>
      obtain ⟨rest,got,left⟩ := Poll.readByte delivers
      rw [readLength,List.range'_succ,List.map_cons,Varint.take]
      simp only [got,place]
      split
      · exact .err ..
      · split
        · exact .ok left
        · rw [if_neg (by omega)]
          exact ih (by omega) (by simp only; omega) left

end TvFraming.FramedReader

structure Decodes (front data raw rest : Bytes) (value : UInt64) : Prop where
  split : data = raw ++ rest
  short : raw.length ≤ 10
  control : decodeVarint (front ++ data) front.length = .ok (value,front.length+raw.length)
  auth : Auth.takeVarint data = .ok (value,rest)
  remote : AndroidTv.takeVarint data = .ok (value,rest)
  framed : ∀ r polls, r.length = 0 → r.lengthShift = 0 → Poll.Delivers polls data →
    ∃ t left, TvFraming.FramedReader.readLength 10 r polls = (.returned (.ok ()),t,left) ∧ t.length = value ∧
      Poll.Delivers left rest

structure Rejects (front data : Bytes) : Prop where
  control : ∃ e, decodeVarint (front ++ data) front.length = .err e
  auth : ∃ e, Auth.takeVarint data = .err e
  remote : AndroidTv.takeVarint data = .err ()
  framed : ∀ r polls, r.length = 0 → r.lengthShift = 0 → Poll.Delivers polls data →
    ∃ e t left, TvFraming.FramedReader.readLength 10 r polls = (.returned (.err e),t,left)

section Decoders
variable {front data : Bytes}

theorem framedFollows {r : TvFraming.FramedReader} {polls : List Poll} (empty : r.length = 0)
    (start : r.lengthShift = 0) (delivers : Poll.Delivers polls data) :
    TvFraming.FramedReader.Follows (TvFraming.FramedReader.readLength 10 r polls)
      (Varint.take () () Varint.shifts data 0) := by
  have follows := TvFraming.FramedReader.readLengthFollows (show 0+9 = 9 from rfl) start delivers
  rw [empty] at follows
  exact follows

theorem decodesWord {raw rest : Bytes} {value : UInt64} (split : data = raw ++ rest) (word : Varint.Word raw value) :
    Decodes front data raw rest value where
  split := split
  short := word.short
  control := by
    have here : raw <+: (front ++ data).drop front.length := by
      rw [List.drop_left,split]
      exact List.prefix_append raw rest
    exact ((decodeVarintSpec front.length).1 _).mpr ⟨raw,⟨here,rfl⟩,word⟩
  auth := ((Auth.takeVarintSpec data).1 _).mpr ⟨raw,split,word⟩
  remote := ((AndroidTv.takeVarintSpec data).1 _).mpr ⟨raw,split,word⟩
  framed r polls empty start delivers := by
    have follows := framedFollows empty start delivers
    rw [((Varint.takeSpec () () data).1 (value,rest)).mpr ⟨raw,split,word⟩] at follows
    generalize TvFraming.FramedReader.readLength 10 r polls = result at follows ⊢
    cases follows with
    | @ok t left _ delivered => exact ⟨t,left,rfl,rfl,delivered⟩

theorem rejectsOther (never : ∀ raw rest value, data = raw ++ rest → ¬ Varint.Word raw value) :
    Rejects front data where
  control := by
    refine (decodeVarintSpec front.length).refuses fun r found => ?_
    obtain ⟨raw,⟨⟨rest,here⟩,_⟩,word⟩ := found
    rw [List.drop_left] at here
    exact never raw rest r.1 here.symm word
  auth := (Auth.takeVarintSpec data).refuses fun r ⟨raw,split,word⟩ => never raw r.2 r.1 split word
  remote := by
    obtain ⟨_,refused⟩ := (AndroidTv.takeVarintSpec data).refuses
      fun r ⟨raw,split,word⟩ => never raw r.2 r.1 split word
    exact refused
  framed r polls empty start delivers := by
    have follows := framedFollows empty start delivers
    obtain ⟨_,refused⟩ := (Varint.takeSpec () () data).refuses
      fun r ⟨raw,split,word⟩ => never raw r.2 r.1 split word
    rw [refused] at follows
    generalize TvFraming.FramedReader.readLength 10 r polls = result at follows ⊢
    cases follows with
    | err e t left => exact ⟨e,t,left,rfl⟩

end Decoders

theorem varintCodecsAgree :
    (∀ value, Auth.encodeVarint value = encodeVarint value ∧ TvFraming.encodeVarint value = encodeVarint value) ∧
      (∀ front data : Bytes, (∃ raw rest value, Decodes front data raw rest value) ∨ Rejects front data) ∧
      ∀ (front rest : Bytes) (value : UInt64),
        Decodes front (encodeVarint value ++ rest) (encodeVarint value) rest value := by
  refine ⟨encodersAgree,fun front data => ?_,fun front rest value => decodesWord rfl (encodeVarintWord value)⟩
  by_cases some' : ∃ raw rest value, data = raw ++ rest ∧ Varint.Word raw value
  · obtain ⟨raw,rest,value,split,word⟩ := some'
    exact .inl ⟨raw,rest,value,decodesWord split word⟩
  · exact .inr (rejectsOther fun raw rest value split word => some' ⟨raw,rest,value,split,word⟩)

end Chromiacast
