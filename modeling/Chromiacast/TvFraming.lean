import Chromiacast.Basis.Transport
import Chromiacast.Basis.Varint

/-! Varint-prefixed frames of the Android TV remote protocol. The length is read
byte by byte into the reader's fields; nothing of a body is read before its length
has passed the checks. -/
namespace Chromiacast.TvFraming
open Basis

def maxFrameSize : Nat := 64*1024

def invalidData (detail : String) : IoError := ⟨.invalidData,detail⟩

def lengthOverflow : IoError := invalidData "protobuf frame length varint overflow"

structure FramedReader where
  length : UInt64
  lengthShift : Nat
  body : Bytes
  bodyFilled : Nat
  bodyExpected : Nat
  deriving DecidableEq, Repr

namespace FramedReader

def new : FramedReader := ⟨0,0,[],0,0⟩

/- A length has at most ten bytes. -/
def readLength : Nat → FramedReader → List Poll → Turn IoError Unit × FramedReader × List Poll
  | 0,r,polls => (.returned .panic,r,polls)
  | rounds+1,r,polls =>
    match read 1 polls with
    | (.dropped,rest) => (.dropped,r,rest)
    | (.waiting,rest) => (.waiting,r,rest)
    | (.bytes [],rest) =>
      (.returned (.err ⟨.unexpectedEof,"connection closed while reading protobuf frame length"⟩),r,rest)
    | (.bytes (value::_),rest) =>
      if r.lengthShift = 63 ∧ 1 < value then (.returned (.err lengthOverflow),r,rest) else
        let r := {r with length := Varint.accumulate r.length r.lengthShift value}
        if value &&& 0x80 = 0 then (.returned (.ok ()),r,rest) else
          let r := {r with lengthShift := r.lengthShift+7}
          if 64 ≤ r.lengthShift then (.returned (.err lengthOverflow),r,rest) else readLength rounds r rest

def openBody (r : FramedReader) : Option IoError × FramedReader :=
  let r := {r with bodyExpected := r.length.toNat}
  if r.bodyExpected = 0 then (some (invalidData "zero-length protobuf frame"),r) else
    if maxFrameSize < r.bodyExpected then (some (invalidData "protobuf frame exceeds 64 KiB"),r) else
      (none,{r with body := resize r.body r.bodyExpected})

def readBody (r : FramedReader) (polls : List Poll) : Turn IoError Bytes × FramedReader × List Poll :=
  let f := fill r.bodyExpected r.bodyExpected r.body r.bodyFilled polls
  let r := {r with body := f.buffer, bodyFilled := f.filled}
  match f.progress with
  | .complete =>
    (.returned (slice r.body 0 r.bodyExpected),
      {r with length := 0, lengthShift := 0, bodyExpected := 0, bodyFilled := 0},f.polls)
  | .closed => (.returned (.err ⟨.unexpectedEof,"connection closed while reading protobuf frame body"⟩),r,f.polls)
  | .dropped => (.dropped,r,f.polls)
  | .waiting => (.waiting,r,f.polls)
  | .panic => (.returned .panic,r,f.polls)

def readFrame (r : FramedReader) (polls : List Poll) : Turn IoError Bytes × FramedReader × List Poll :=
  if r.bodyExpected = 0 then
    match readLength 10 r polls with
    | (.returned (.ok _),r,rest) =>
      match r.openBody with
      | (none,r) => r.readBody rest
      | (some e,r) => (.returned (.err e),r,rest)
    | (.returned (.err e),r,rest) => (.returned (.err e),r,rest)
    | (.returned .panic,r,rest) => (.returned .panic,r,rest)
    | (.dropped,r,rest) => (.dropped,r,rest)
    | (.waiting,r,rest) => (.waiting,r,rest)
  else r.readBody polls

end FramedReader

def encodeVarintGroups : Nat → UInt64 → Bytes
  | 0,_ => []
  | groups+1,value =>
    let byte := (value &&& 0x7F).toUInt8
    let value := value >>> 7
    if value ≠ 0 then (byte ||| 0x80)::encodeVarintGroups groups value else [byte]

def encodeVarint (value : UInt64) : Bytes := encodeVarintGroups 10 value

def writeMessage (message : Bytes) : Except IoError Bytes :=
  if message.length = 0 then .error (invalidData "refusing to write an empty protobuf frame") else
    if maxFrameSize < message.length then .error (invalidData "protobuf frame exceeds 64 KiB") else
      .ok (encodeVarint (UInt64.ofNat message.length) ++ message)

theorem encodeVarintGroupsEq (groups : Nat) (value : UInt64) :
    encodeVarintGroups groups value = Varint.encode groups value.toNat := by
  induction groups generalizing value with
  | zero => rfl
  | succ groups ih =>
    have low : (value &&& 0x7F).toUInt8.toNat = value.toNat%128 := by
      have masked := Nat.and_two_pow_sub_one_eq_mod value.toNat 7
      rw [UInt64.toNat_toUInt8,UInt64.toNat_and]
      simp only [UInt64.toNat_ofNat,Nat.reducePow,Nat.reduceMod,Nat.reduceSub] at masked ⊢
      omega
    have last : value >>> 7 = 0 ↔ value.toNat < 128 := by
      have zero : (0 : UInt64).toNat = 0 := rfl
      rw [← UInt64.toNat_inj,Varint.shiftGroup,zero]
      omega
    simp only [encodeVarintGroups,Varint.encode,ih,Varint.shiftGroup]
    by_cases small : value.toNat < 128
    · rw [if_neg (not_not.mpr (last.mpr small)),if_pos small]
      congr 1
      apply UInt8.toNat_inj.mp
      rw [low,UInt8.toNat_ofNat']
      omega
    · rw [if_pos (fun zero => small (last.mp zero)),if_neg small,Varint.markMore low]

theorem encodeVarintWord (value : UInt64) : Varint.Word (encodeVarint value) value := by
  rw [encodeVarint,encodeVarintGroupsEq]
  exact Varint.encodeWord value

/- The lengths a stream can announce: a 64-bit number, or one that has more bits. -/
inductive Announces : Bytes → Option UInt64 → Prop
  | word {raw : Bytes} {total : UInt64} (word : Varint.Word raw total) : Announces raw (some total)
  | overflow {nine : Bytes} {b : UInt8} (continuing : Varint.Continuing nine) (nineBytes : nine.length = 9)
      (wide : 1 < b) : Announces (nine ++ [b]) none

theorem Announces.step {got more : Bytes} {value : UInt8} {announced : Option UInt64} {length : UInt64} {shift : Nat}
    (reading : Varint.Reading got length shift) (announces : Announces (got ++ value::more) announced) :
    ((shift = 63 ∧ 1 < value) ∧ more = [] ∧ announced = none) ∨
    (¬ (shift = 63 ∧ 1 < value) ∧ value.toNat < 128 ∧ more = [] ∧
      announced = some (Varint.accumulate length shift value)) ∨
    (¬ (shift = 63 ∧ 1 < value) ∧ 128 ≤ value.toNat ∧ 0 < more.length) := by
  have place := reading.place
  have nine := reading.short
  generalize whole : got ++ value::more = raw at announces
  cases announces with
  | @word raw total word =>
    subst whole
    by_cases outside : shift = 63 ∧ 1 < value
    · exact absurd word (reading.overflow outside more total)
    · have rest := Varint.Complete.remainder reading.continuing word.complete
      by_cases stops : value.toNat < 128
      · have here := reading.stop outside stops
        obtain ⟨_,same,empty⟩ := here.unique (x := more) (y := []) word (by simp)
        exact Or.inr (Or.inl ⟨outside,stops,empty,by rw [same]⟩)
      · cases rest with
        | last last => exact absurd last stops
        | more continues tail => exact Or.inr (Or.inr ⟨outside,continues,tail.nonempty⟩)
  | @overflow first b continuing nineBytes wide =>
    have sizes := congrArg List.length whole
    simp only [List.length_append,List.length_cons,List.length_nil] at sizes
    rcases Nat.lt_or_eq_of_le nine with before | last
    · obtain ⟨between,rfl,tail⟩ : ∃ between, first = got ++ value::between ∧ more = between ++ [b] := by
        have shorter : (got ++ [value]).length ≤ first.length := by simp; omega
        have starts : got ++ [value] <+: first :=
          List.prefix_of_prefix_length_le ⟨more,by rw [← whole]; simp⟩ (List.prefix_append first [b]) shorter
        obtain ⟨between,same⟩ := starts
        refine ⟨between,by rw [← same]; simp,?_⟩
        rw [← same] at whole
        simpa using whole
      have large : 128 ≤ value.toNat := continuing value (by simp)
      exact Or.inr (Or.inr ⟨by omega,large,by rw [tail]; simp⟩)
    · have parts := List.append_inj whole (by omega)
      obtain ⟨rfl,same⟩ := parts
      cases same
      exact Or.inl ⟨⟨by omega,wide⟩,rfl,rfl⟩

namespace FramedReader

structure InLength (r : FramedReader) (got : Bytes) : Prop where
  reading : Varint.Reading got r.length r.lengthShift
  closed : r.bodyExpected = 0
  fresh : r.bodyFilled = 0

def lengthResult : Option UInt64 → Outcome IoError Unit
  | some _ => .ok ()
  | none => .err lengthOverflow

structure LengthRead (announced : Option UInt64) (r : FramedReader) : Prop where
  closed : r.bodyExpected = 0
  fresh : r.bodyFilled = 0
  total : ∀ length, announced = some length → r.length = length

theorem readLengthResumes {rounds : Nat} {r : FramedReader} {got raw tail : Bytes} {announced : Option UInt64}
    {polls : List Poll} (inLength : InLength r got) (live : Poll.Live polls) (announces : Announces raw announced)
    (short : got.length < raw.length) (stream : got ++ Poll.supply polls <+: raw ++ tail)
    (enough : 10 ≤ got.length+rounds) :
    Resumes InLength (LengthRead announced) raw got (lengthResult announced) polls (readLength rounds r polls) := by
  induction rounds generalizing r got polls with
  | zero =>
    have nine := inLength.reading.short
    omega
  | succ rounds ih =>
    have reading := inLength.reading
    unfold readLength
    split
    · rename_i rest dropped
      obtain ⟨supply,alive,fewer⟩ := Poll.readDropped live dropped
      exact .dropped [] (by rwa [List.append_nil]) alive fewer (by rwa [List.append_nil]) supply
    · rename_i rest waiting
      obtain ⟨rfl,rfl⟩ := Poll.readWaiting waiting
      exact .waiting [] (by rwa [List.append_nil]) (by rwa [List.append_nil]) rfl
    · rename_i rest empty
      have some' := (Poll.readBytes (by omega) live empty).1
      simp at some'
    · rename_i value others rest got'
      obtain ⟨_,one,supply,alive,fewer⟩ := Poll.readBytes (by omega) live got'
      have single : others = [] := List.length_eq_zero_iff.mp (by simp only [List.length_cons] at one; omega)
      subst single
      obtain ⟨more,rfl⟩ : ∃ more, raw = got ++ value::more := by
        have starts : got ++ [value] <+: raw := by
          refine List.prefix_of_prefix_length_le (List.IsPrefix.trans ?_ stream) (List.prefix_append raw tail)
            (by simp; omega)
          rw [supply,← List.append_assoc]
          exact List.prefix_append _ _
        obtain ⟨more,same⟩ := starts
        exact ⟨more,by rw [← same]; simp⟩
      have taken : Poll.supply polls = [value] ++ Poll.supply rest := supply
      rcases announces.step reading with ⟨outside,rfl,rfl⟩ | ⟨inside,stops,rfl,rfl⟩ | ⟨inside,continues,left⟩
      · rw [if_pos outside]
        exact .done ⟨inLength.closed,inLength.fresh,by simp⟩ alive fewer [value] rfl taken
      · rw [if_neg inside]
        simp only [if_pos ((Varint.stopsIff value).mpr stops)]
        exact .done ⟨inLength.closed,inLength.fresh,fun _ same => Option.some.inj same⟩ alive fewer [value] rfl taken
      · have open' : ¬ value &&& 0x80 = 0 := fun stops => by
          have low := (Varint.stopsIff value).mp stops
          omega
        obtain ⟨further,early⟩ := reading.more inside continues
        rw [if_neg inside]
        simp only [if_neg open',if_neg (Nat.not_le_of_lt early)]
        refine Resumes.extend taken fewer (ih ⟨further,inLength.closed,inLength.fresh⟩ alive (by simp; omega) ?_
          (by simp; omega))
        rw [List.append_assoc,← taken]
        exact stream

inductive Holds (r : FramedReader) : Bytes → Prop
  | inLength {got : Bytes} (held : InLength r got) : Holds r got
  | inBody {lengthRaw : Bytes} (word : Varint.Word lengthRaw r.length) (expected : r.bodyExpected = r.length.toNat)
      (some : 0 < r.bodyExpected) (room : r.body.length = r.bodyExpected) (part : r.bodyFilled ≤ r.bodyExpected) :
      Holds r (lengthRaw ++ r.body.take r.bodyFilled)

theorem newHolds : Holds new [] := Holds.inLength ⟨Varint.Reading.start,rfl,rfl⟩

theorem readBodyResumes {r : FramedReader} {lengthRaw contents tail : Bytes} {polls : List Poll}
    (word : Varint.Word lengthRaw r.length) (expected : r.bodyExpected = r.length.toNat) (some : 0 < r.bodyExpected)
    (room : r.body.length = r.bodyExpected) (part : r.bodyFilled ≤ r.bodyExpected)
    (sized : r.bodyExpected = contents.length) (live : Poll.Live polls)
    (stream : r.body.take r.bodyFilled ++ Poll.supply polls <+: contents ++ tail) :
    Resumes Holds (Holds · []) (lengthRaw ++ contents) (lengthRaw ++ r.body.take r.bodyFilled) (.ok contents) polls
      (r.readBody polls) := by
  refine fillResumes live room part sized.symm ?_ stream (fun f ran complete body mark alive more => ?_)
    fun f ran size short => ?_
  · rw [List.length_append,sized]
  · have all : f.buffer.take r.bodyExpected = contents := by rw [sized,body,List.take_length]
    have inside : r.bodyExpected ≤ f.buffer.length := by rw [sized,body]
    simp only [readBody,ran,complete,sliceIn (Nat.zero_le _) inside,List.drop_zero,Nat.sub_zero,all]
    exact .done (Holds.inLength ⟨Varint.Reading.start,rfl,rfl⟩) alive (le_refl _) [] (List.append_nil _) rfl
  · refine ⟨{r with body := f.buffer, bodyFilled := f.filled},?_,fun dropped => ?_,fun waiting => ?_⟩
    · exact Holds.inBody (r := {r with body := f.buffer, bodyFilled := f.filled}) word expected some size (le_of_lt short)
    · simp only [readBody,ran,dropped]
    · simp only [readBody,ran,waiting]

end FramedReader

inductive Frame : Outcome IoError Bytes → Bytes → Prop
  | body {lengthRaw contents : Bytes} (word : Varint.Word lengthRaw (UInt64.ofNat contents.length))
      (some : 1 ≤ contents.length) (fits : contents.length ≤ maxFrameSize) :
      Frame (.ok contents) (lengthRaw ++ contents)

inductive Refused : Outcome IoError Bytes → Bytes → Prop
  | zero {raw : Bytes} (word : Varint.Word raw 0) : Refused (.err (invalidData "zero-length protobuf frame")) raw
  | large {raw : Bytes} {total : UInt64} (word : Varint.Word raw total) (wide : maxFrameSize < total.toNat) :
      Refused (.err (invalidData "protobuf frame exceeds 64 KiB")) raw
  | overflow {nine : Bytes} {b : UInt8} (continuing : Varint.Continuing nine) (nineBytes : nine.length = 9)
      (wide : 1 < b) : Refused (.err lengthOverflow) (nine ++ [b])

theorem announcesNonempty {raw : Bytes} {announced : Option UInt64} (announces : Announces raw announced) :
    0 < raw.length := by
  cases announces with
  | word word => exact word.complete.nonempty
  | overflow => simp

theorem Refused.announces {result : Outcome IoError Bytes} {raw : Bytes} (refused : Refused result raw) :
    ∃ announced, Announces raw announced ∧
      (announced = none ∧ result = .err lengthOverflow ∨
        ∃ total e, announced = some total ∧ result = .err e ∧
          ∀ r : FramedReader, r.length = total → r.openBody.1 = some e) := by
  cases refused with
  | zero word =>
    refine ⟨_,.word word,Or.inr ⟨0,_,rfl,rfl,fun r same => ?_⟩⟩
    simp only [FramedReader.openBody,same]
    rfl
  | @large _ total word wide =>
    refine ⟨_,.word word,Or.inr ⟨total,_,rfl,rfl,fun r same => ?_⟩⟩
    simp only [FramedReader.openBody,same]
    rw [if_neg (by omega),if_pos wide]
  | overflow continuing nineBytes wide => exact ⟨_,.overflow continuing nineBytes wide,Or.inl ⟨rfl,rfl⟩⟩

namespace FramedReader

theorem readFrameLength {r : FramedReader} {got raw whole tail : Bytes} {announced : Option UInt64} {polls : List Poll}
    {result : Outcome IoError Bytes} {Held : FramedReader → Bytes → Prop} {After : FramedReader → Prop}
    (embeds : ∀ {t g}, InLength t g → Held t g) (inLength : InLength r got) (live : Poll.Live polls)
    (announces : Announces raw announced) (first : raw <+: whole)
    (short : got.length < raw.length) (stream : got ++ Poll.supply polls <+: raw ++ tail)
    (next : ∀ t rest, LengthRead announced t → Poll.Live rest → rest.length ≤ polls.length →
      Poll.supply rest <+: tail → lengthResult announced = .ok () →
      Resumes Held After whole raw result rest (match t.openBody with
        | (none,u) => u.readBody rest
        | (some e,u) => (.returned (.err e),u,rest)))
    (fails : announced = none → result = .err lengthOverflow ∧ whole = raw ∧ ∀ t, After t) :
    Resumes Held After whole got result polls (r.readFrame polls) := by
  have resumes := readLengthResumes inLength live announces short stream (by omega : 10 ≤ got.length+10)
  unfold readFrame
  rw [if_pos inLength.closed]
  generalize readLength 10 r polls = outcome at resumes
  cases resumes with
  | @done t rest after alive fewer used same supply =>
    cases announced with
    | some total =>
      have left : Poll.supply rest <+: tail := by
        rw [supply,← List.append_assoc,same] at stream
        exact (List.prefix_append_right_inj raw).mp stream
      refine Resumes.extend supply fewer ?_
      rw [same]
      exact next t rest after alive fewer left rfl
    | none =>
      obtain ⟨rfl,rfl,every⟩ := fails rfl
      exact .done (every t) alive fewer used same supply
  | dropped used kept alive fewer part supply =>
    exact .dropped used (embeds kept) alive fewer (lt_of_lt_of_le part first.length_le) supply
  | waiting used kept part supply =>
    exact .waiting used (embeds kept) (lt_of_lt_of_le part first.length_le) supply

theorem InLength.short {r : FramedReader} {got raw more : Bytes} {announced : Option UInt64} (held : InLength r got)
    (announces : Announces raw announced) (starts : got <+: raw ++ more) : got.length < raw.length := by
  by_contra long
  have inside : raw <+: got := List.prefix_of_prefix_length_le (List.prefix_append raw more) starts (by omega)
  cases announces with
  | word word =>
    have continuing : Varint.Continuing raw := fun b member => held.reading.continuing b (inside.subset member)
    have rest : Varint.Complete (raw ++ []) := by rw [List.append_nil]; exact word.complete
    exact absurd (Varint.Complete.remainder continuing rest).nonempty (by simp)
  | overflow continuing nineBytes wide =>
    have ten := inside.length_le
    have nine := held.reading.short
    rw [List.length_append,List.length_singleton] at ten
    omega

theorem readFrameSafe : CancelSafe readFrame Holds (Holds · []) Frame := by
  rintro r got frame result polls tail holds live framed short stream
  obtain ⟨word,some,fits⟩ := framed
  rename_i lengthRaw contents
  have total : (UInt64.ofNat contents.length).toNat = contents.length := by
    rw [UInt64.toNat_ofNat']
    exact Nat.mod_eq_of_lt (lt_of_le_of_lt fits (by decide))
  rw [List.append_assoc] at stream
  cases holds with
  | inLength held =>
    have part := held.short (.word word) ((List.prefix_append _ _).trans stream)
    refine readFrameLength .inLength held live (.word word) (List.prefix_append _ _) part stream ?_ (by simp)
    intro t rest read alive fewer left _
    have length := read.total _ rfl
    have open' : t.openBody = (none,{t with bodyExpected := contents.length, body := resize t.body contents.length}) := by
      simp only [openBody,length,total]
      rw [if_neg (by omega),if_neg (by omega)]
    rw [open']
    have body := readBodyResumes (r := {t with bodyExpected := contents.length, body := resize t.body contents.length})
      (by rw [length]; exact word) (by rw [length,total]) some (resizeLength _ _) (by rw [read.fresh]; omega) rfl alive
      (by simpa [read.fresh] using left)
    simpa [read.fresh] using body
  | inBody word' expected some' room part =>
    obtain ⟨rest,same⟩ := stream
    rw [List.append_assoc,List.append_assoc] at same
    obtain ⟨rfl,length,after⟩ := word'.unique word same
    rw [readFrame,if_neg (by omega)]
    exact readBodyResumes word' expected some' room part (by rw [expected,length,total]) live
      ⟨rest,by rw [List.append_assoc]; exact after⟩

theorem readFrameRefuses : CancelSafe readFrame InLength (fun _ => True) Refused := by
  rintro r got raw result polls tail held live refused short stream
  obtain ⟨announced,announces,⟨rfl,rfl⟩ | ⟨total,e,rfl,rfl,opens⟩⟩ := refused.announces
  · exact readFrameLength id held live announces (List.prefix_refl _) short stream
      (fun _ _ _ _ _ _ ok => by cases ok) (fun _ => ⟨rfl,rfl,fun _ => trivial⟩)
  · refine readFrameLength id held live announces (List.prefix_refl _) short stream ?_ (by simp)
    intro t rest read alive fewer left _
    have refuses := opens t (read.total _ rfl)
    generalize t.openBody = opened at refuses
    obtain ⟨_,u⟩ := opened
    cases refuses
    exact .done trivial alive (le_refl _) [] (List.append_nil _) rfl

end FramedReader

theorem frameNonempty (result : Outcome IoError Bytes) (frame : Bytes) (framed : Frame result frame) :
    0 < frame.length := by
  cases framed with
  | body word some fits => rw [List.length_append]; omega

theorem writeAccepts {message : Bytes} (some : 1 ≤ message.length) (fits : message.length ≤ maxFrameSize) :
    writeMessage message = .ok (encodeVarint (UInt64.ofNat message.length) ++ message) := by
  rw [writeMessage,if_neg (by omega),if_neg (by omega)]

theorem holdsNothing {r : FramedReader} (holds : r.Holds []) : r.InLength [] := by
  generalize none' : ([] : Bytes) = got at holds
  cases holds with
  | inLength held => exact none' ▸ held
  | inBody word expected some room part =>
    have nonempty := word.complete.nonempty
    rw [(List.append_eq_nil_iff.mp none'.symm).1] at nonempty
    simp at nonempty

theorem framesReadExactly (bodies : List Bytes)
    (fits : ∀ body ∈ bodies, 1 ≤ body.length ∧ body.length ≤ maxFrameSize) :
    ∃ frames, List.Forall₂ (fun body frame => writeMessage body = .ok frame) bodies frames ∧
      ∀ polls, Poll.Live polls → ∀ calls, Poll.size polls < calls →
        (Poll.supply polls = frames.flatten →
          (drive FramedReader.readFrame calls FramedReader.new polls).1 = bodies.map .ok) ∧
        ∀ e raw tail, Refused (.err e) raw → Poll.supply polls = frames.flatten ++ (raw ++ tail) →
          ∃ t rest, drive FramedReader.readFrame calls FramedReader.new polls = (bodies.map .ok ++ [.err e],t,rest) ∧
            Poll.supply rest = tail := by
  let frame (body : Bytes) : Bytes := encodeVarint (UInt64.ofNat body.length) ++ body
  have framed : List.Forall₂ (fun body frame => Frame (.ok body) frame) bodies (bodies.map frame) := by
    rw [List.forall₂_map_right_iff]
    exact List.forall₂_same.mpr fun body member => .body (encodeVarintWord _) (fits body member).1 (fits body member).2
  refine ⟨bodies.map frame,?_,fun polls live calls enough => ⟨fun stream => ?_,fun e raw tail refused stream => ?_⟩⟩
  · rw [List.forall₂_map_right_iff]
    exact List.forall₂_same.mpr fun body member => writeAccepts (fits body member).1 (fits body member).2
  · obtain ⟨later,t,rest,run,holds,alive,drained,_⟩ := driveFrames FramedReader.readFrameSafe framed frameNonempty
      FramedReader.newHolds live (by rw [stream,List.append_nil]) enough
    have sample : Frame (.ok [0]) ([1] ++ [0]) := .body (encodeVarintWord 1) (by decide) (by decide)
    have idle : (drive FramedReader.readFrame later t rest).1 = [] :=
      driveIdle FramedReader.readFrameSafe sample (by decide) holds alive drained
    rw [run,idle,List.append_nil]
  · obtain ⟨later,t,rest,run,holds,alive,left,more⟩ := driveFrames FramedReader.readFrameSafe framed frameNonempty
      FramedReader.newHolds live stream enough
    obtain ⟨announced,announces,_⟩ := refused.announces
    obtain ⟨_,u,last,v,after,reaches,called,_,_,unread,_⟩ := driveReturns FramedReader.readFrameRefuses
      (holdsNothing holds) alive refused (announcesNonempty announces) left more
    refine ⟨v,after,?_,unread⟩
    rw [run,reaches]
    simp only [drive,called]

theorem twoFramesRead :
    ∃ frames, List.Forall₂ (fun body frame => writeMessage body = .ok frame) [[7],[8,9]] frames ∧
      ∀ polls, Poll.Live polls → ∀ calls, Poll.size polls < calls →
        (Poll.supply polls = frames.flatten →
          (drive FramedReader.readFrame calls FramedReader.new polls).1 = [.ok [7],.ok [8,9]]) ∧
        ∀ e raw tail, Refused (.err e) raw → Poll.supply polls = frames.flatten ++ (raw ++ tail) →
          ∃ t rest, drive FramedReader.readFrame calls FramedReader.new polls = ([.ok [7],.ok [8,9]] ++ [.err e],t,rest) ∧
            Poll.supply rest = tail :=
  framesReadExactly [[7],[8,9]] (by decide)

end Chromiacast.TvFraming
