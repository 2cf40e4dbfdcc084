import Chromiacast.Basis.Text
import Chromiacast.CastMessage

/-! Chunked response bodies of the setup service. The scanner says where a body
ends and is run again on every longer part of the response; the decoder then reads
the body. -/
namespace Chromiacast
open Basis

namespace Setup

def maxResponseBytes : Nat := 64*1024

def crlf : Bytes := [0x0D,0x0A]

def chunkSize (line : Bytes) : Option Nat :=
  (fromUtf8 line).bind fun line => fromStrRadix 64 16 (trim (line.toList.takeWhile (· ≠ ';')))

/- The scanner behind a size line, with the rest of the loop. A slice has fewer than 2^63 bytes, so
the saturating additions of the source are plain ones. -/
def chunkedBodyTail (next : Nat → Outcome String (Option Nat)) (encoded : Bytes) (offset size : Nat) :
    Outcome String (Option Nat) :=
  if size = 0 then do
    let trailers ← slice encoded offset encoded.length
    if crlf.isPrefixOf trailers then .ok (some (offset+2))
    else .ok ((position (crlf ++ crlf) trailers).map fun length => offset+length+4)
  else if size > maxResponseBytes then .err "response body exceeds the size limit"
  else if offset+(size+2) > encoded.length then .ok none
  else if getRange encoded (offset+size) (offset+size+2) ≠ some crlf then
    .err "response chunk omitted its terminator"
  else if offset+(size+2) > maxResponseBytes then .err "response body exceeds the size limit"
  else next (offset+(size+2))

def chunkedBodyLoop (encoded : Bytes) : Nat → Nat → Outcome String (Option Nat)
  | 0,_ => .panic
  | fuel+1,offset => do
    let rest ← slice encoded offset encoded.length
    match position crlf rest with
    | none => .ok none
    | some lineEnd =>
      if lineEnd > 128 then .err "chunk-size line exceeds the limit"
      else
        let line ← slice encoded offset (offset+lineEnd)
        match chunkSize line with
        | none => .err "invalid chunk size"
        | some size => chunkedBodyTail (chunkedBodyLoop encoded fuel) encoded (offset+(lineEnd+2)) size

def chunkedBodyLength (encoded : Bytes) : Outcome String (Option Nat) :=
  chunkedBodyLoop encoded (encoded.length+1) 0

def decodeChunkedLoop : Nat → Bytes → Bytes → Outcome String Bytes
  | 0,_,_ => .panic
  | fuel+1,encoded,decoded =>
    match position crlf encoded with
    | none => .err "incomplete chunk-size line"
    | some lineEnd =>
      if lineEnd > 128 then .err "chunk-size line exceeds the limit"
      else do
        let line ← slice encoded 0 lineEnd
        match chunkSize line with
        | none => .err "invalid chunk size"
        | some size =>
          let encoded ← slice encoded (lineEnd+2) encoded.length
          if size = 0 then .ok decoded
          else if decoded.length+size > maxResponseBytes then .err "response body exceeds the size limit"
          else match getRange encoded 0 size with
            | none => .err "truncated HTTP response chunk"
            | some chunk =>
              if getRange encoded size (size+2) ≠ some crlf then .err "response chunk omitted its terminator"
              else
                let encoded ← slice encoded (size+2) encoded.length
                decodeChunkedLoop fuel encoded (decoded ++ chunk)

def decodeChunkedBody (encoded : Bytes) : Outcome String Bytes :=
  decodeChunkedLoop (encoded.length+1) encoded []

inductive Piece where
  | wait
  | fail (error : String)
  | last (line trailers : Bytes)
  | chunk (line data : Bytes)
  deriving DecidableEq, Repr

def Piece.behindLine (offset : Nat) (line tail : Bytes) (size : Nat) : Piece :=
  if size = 0 then
    if crlf <+: tail then last line crlf
    else match position (crlf ++ crlf) tail with
      | none => wait
      | some length => last line (tail.take (length+4))
  else if size > maxResponseBytes then fail "response body exceeds the size limit"
  else if tail.length < size+2 then wait
  else if ¬ crlf <+: tail.drop size then fail "response chunk omitted its terminator"
  else if offset+(line.length+2)+(size+2) > maxResponseBytes then fail "response body exceeds the size limit"
  else chunk line (tail.take size)

def Piece.read (offset : Nat) (rest : Bytes) : Piece :=
  match position crlf rest with
  | none => wait
  | some lineEnd =>
    if lineEnd > 128 then fail "chunk-size line exceeds the limit"
    else match chunkSize (rest.take lineEnd) with
      | none => fail "invalid chunk size"
      | some size => behindLine offset (rest.take lineEnd) (rest.drop (lineEnd+2)) size

theorem crlfNonempty : crlf ≠ [] := by decide
theorem blankLineNonempty : crlf ++ crlf ≠ [] := by decide

theorem getRangeCrlf {data : Bytes} {first : Nat} (inside : first+2 ≤ data.length) :
    getRange data first (first+2) = some crlf ↔ crlf <+: data.drop first := by
  have two : first+2-first = crlf.length := by rw [Nat.add_sub_cancel_left]; rfl
  rw [getRangeIn (Nat.le_add_right _ _) inside,Option.some.injEq,two,List.prefix_iff_eq_take,eq_comm]

def Piece.scan (encoded : Bytes) (fuel offset : Nat) : Piece → Outcome String (Option Nat)
  | wait => .ok none
  | fail error => .err error
  | last line trailers => .ok (some (offset+(line.length+2)+trailers.length))
  | chunk line data => chunkedBodyLoop encoded fuel (offset+(line.length+2)+(data.length+2))

theorem scanTail {encoded line : Bytes} {offset : Nat} (inside : offset+(line.length+2) ≤ encoded.length)
    (fuel size : Nat) :
    chunkedBodyTail (chunkedBodyLoop encoded fuel) encoded (offset+(line.length+2)) size =
      (Piece.behindLine offset line (encoded.drop (offset+(line.length+2))) size).scan encoded fuel offset := by
  unfold chunkedBodyTail Piece.behindLine
  by_cases none' : size = 0
  · rw [if_pos none',if_pos none',sliceRest inside,Outcome.okBind]
    by_cases blank : crlf <+: encoded.drop (offset+(line.length+2))
    · rw [if_pos blank,if_pos (List.isPrefixOf_iff_prefix.mpr blank)]
      rfl
    · rw [if_neg blank,if_neg (fun found => blank (List.isPrefixOf_iff_prefix.mp found))]
      cases found : position (crlf ++ crlf) (encoded.drop (offset+(line.length+2))) with
      | none => rfl
      | some length =>
        have room : length+4 ≤ (encoded.drop (offset+(line.length+2))).length :=
          positionInside blankLineNonempty found
        simp only [Option.map_some,Piece.scan,List.length_take_of_le room,Nat.add_assoc]
  · rw [if_neg none',if_neg none']
    by_cases large : size > maxResponseBytes
    · rw [if_pos large,if_pos large]
      rfl
    · rw [if_neg large,if_neg large]
      by_cases short : offset+(line.length+2)+(size+2) > encoded.length
      · rw [if_pos short,if_pos (by rw [List.length_drop]; omega)]
        rfl
      · have room : offset+(line.length+2)+size+2 ≤ encoded.length := by omega
        have behind : size+2 ≤ (encoded.drop (offset+(line.length+2))).length := by
          rw [List.length_drop]
          omega
        rw [if_neg short,if_neg (Nat.not_lt.mpr behind),List.drop_drop]
        simp only [ne_eq,getRangeCrlf room]
        by_cases ended : crlf <+: encoded.drop (offset+(line.length+2)+size)
        · rw [if_neg (not_not_intro ended),if_neg (not_not_intro ended)]
          by_cases beyond : offset+(line.length+2)+(size+2) > maxResponseBytes
          · rw [if_pos beyond,if_pos beyond]
            rfl
          · rw [if_neg beyond,if_neg beyond,Piece.scan,List.length_take_of_le (by omega)]
        · rw [if_pos ended,if_pos ended]
          rfl

theorem chunkedStep {encoded : Bytes} {offset : Nat} (inside : offset ≤ encoded.length) (fuel : Nat) :
    chunkedBodyLoop encoded (fuel+1) offset =
      (Piece.read offset (encoded.drop offset)).scan encoded fuel offset := by
  rw [chunkedBodyLoop,sliceRest inside,Outcome.okBind,Piece.read]
  cases found : position crlf (encoded.drop offset) with
  | none => rfl
  | some lineEnd =>
    have room : lineEnd+2 ≤ (encoded.drop offset).length := positionInside crlfNonempty found
    have bound : offset+(lineEnd+2) ≤ encoded.length := by
      rw [List.length_drop] at room
      omega
    have cut : ((encoded.drop offset).take lineEnd).length = lineEnd := List.length_take_of_le (by omega)
    simp only
    by_cases long : lineEnd > 128
    · rw [if_pos long,if_pos long]
      rfl
    · rw [if_neg long,if_neg long,sliceIn (Nat.le_add_right _ _) (by omega),Outcome.okBind,
        Nat.add_sub_cancel_left]
      cases sized : chunkSize ((encoded.drop offset).take lineEnd) with
      | none => rfl
      | some size =>
        have behind := @scanTail encoded ((encoded.drop offset).take lineEnd) offset
          (by rw [cut]; exact bound) fuel size
        rw [cut] at behind
        simpa only [List.drop_drop] using behind

theorem behindLineStable {offset size : Nat} {line tail : Bytes}
    (settled : Piece.behindLine offset line tail size ≠ .wait) (more : Bytes) :
    Piece.behindLine offset line (tail ++ more) size = Piece.behindLine offset line tail size := by
  unfold Piece.behindLine at settled ⊢
  by_cases none' : size = 0
  · simp only [if_pos none'] at settled ⊢
    by_cases blank : crlf <+: tail
    · rw [if_pos blank,if_pos (blank.trans (List.prefix_append _ _))]
    · rw [if_neg blank] at settled ⊢
      cases found : position (crlf ++ crlf) tail with
      | none => exact absurd (by rw [found]) settled
      | some length =>
        have room : length+4 ≤ tail.length := positionInside blankLineNonempty found
        have same : crlf <+: tail ↔ crlf <+: tail ++ more :=
          windowIff (i := 0) (List.prefix_append _ _) (by rw [show crlf.length = 2 from rfl]; omega)
        rw [if_neg (fun there => blank (same.mpr there)),positionAppend blankLineNonempty found]
        simp only [List.take_append_of_le_length room]
  · simp only [if_neg none'] at settled ⊢
    by_cases large : size > maxResponseBytes
    · rw [if_pos large,if_pos large]
    · rw [if_neg large] at settled ⊢
      rw [if_neg large]
      by_cases short : tail.length < size+2
      · exact absurd (if_pos short) settled
      · have same : crlf <+: tail.drop size ↔ crlf <+: (tail ++ more).drop size :=
          windowIff (List.prefix_append _ _) (by rw [show crlf.length = 2 from rfl]; omega)
        rw [if_neg short,if_neg (by rw [List.length_append]; omega),
          List.take_append_of_le_length (by omega)]
        simp only [same]

theorem readStable {offset : Nat} {rest : Bytes} (settled : Piece.read offset rest ≠ .wait) (more : Bytes) :
    Piece.read offset (rest ++ more) = Piece.read offset rest := by
  unfold Piece.read at settled ⊢
  cases found : position crlf rest with
  | none => exact absurd (by rw [found]) settled
  | some lineEnd =>
    have room : lineEnd+2 ≤ rest.length := positionInside crlfNonempty found
    rw [found] at settled
    rw [positionAppend crlfNonempty found]
    simp only [List.take_append_of_le_length (Nat.le_trans (Nat.le_add_right _ 2) room),
      List.drop_append_of_le_length room] at settled ⊢
    by_cases long : lineEnd > 128
    · rw [if_pos long,if_pos long]
    · rw [if_neg long] at settled ⊢
      rw [if_neg long]
      cases sized : chunkSize (rest.take lineEnd) with
      | none => rfl
      | some size =>
        rw [sized] at settled
        exact behindLineStable settled more

structure SizeLine (line : Bytes) (size : Nat) : Prop where
  ends : position crlf (line ++ crlf) = some line.length
  short : line.length ≤ 128
  sized : chunkSize line = some size

def Trailers (trailers : Bytes) : Prop :=
  trailers = crlf ∨ ¬ crlf <+: trailers ∧ ∃ fields, trailers = fields ++ (crlf ++ crlf) ∧
    position (crlf ++ crlf) trailers = some fields.length

theorem behindLineLast {offset size : Nat} {line tail line' trailers : Bytes}
    (seen : Piece.behindLine offset line tail size = .last line' trailers) :
    size = 0 ∧ line' = line ∧ Trailers trailers ∧ trailers <+: tail := by
  unfold Piece.behindLine at seen
  by_cases none' : size = 0
  · simp only [if_pos none'] at seen
    by_cases blank : crlf <+: tail
    · rw [if_pos blank,Piece.last.injEq] at seen
      obtain ⟨rfl,rfl⟩ := seen
      exact ⟨none',rfl,.inl rfl,blank⟩
    · rw [if_neg blank] at seen
      cases found : position (crlf ++ crlf) tail with
      | none => rw [found] at seen; exact absurd seen (by simp)
      | some length =>
        rw [found] at seen
        obtain ⟨rfl,rfl⟩ := Piece.last.inj seen
        have room : length+(crlf ++ crlf).length ≤ tail.length := positionInside blankLineNonempty found
        have cut : (tail.take (length+4)).length = length+(crlf ++ crlf).length := List.length_take_of_le room
        have first : position (crlf ++ crlf) (tail.take (length+4)) = some length :=
          (positionLocal blankLineNonempty (List.take_prefix _ _) (Nat.le_of_eq cut.symm)).mpr found
        obtain ⟨split,size⟩ := positionSplit blankLineNonempty first
        rw [List.drop_of_length_le (Nat.le_of_eq cut),List.append_nil] at split
        refine ⟨none',rfl,.inr ⟨fun there => blank (there.trans (List.take_prefix _ _)),_,split.symm,?_⟩,
          List.take_prefix _ _⟩
        rw [size]
        exact first
  · simp only [if_neg none'] at seen
    split_ifs at seen

theorem behindLineChunk {offset size : Nat} {line tail line' data : Bytes}
    (seen : Piece.behindLine offset line tail size = .chunk line' data) :
    line' = line ∧ data.length = size ∧ data ≠ [] ∧ data ++ crlf <+: tail ∧
      offset+(line.length+2)+(data.length+2) ≤ maxResponseBytes := by
  unfold Piece.behindLine at seen
  by_cases none' : size = 0
  · simp only [if_pos none'] at seen
    split_ifs at seen
    split at seen <;> exact absurd seen (by simp)
  · simp only [if_neg none'] at seen
    split_ifs at seen with large short ended beyond
    obtain ⟨rfl,rfl⟩ := Piece.chunk.inj seen
    have cut : (tail.take size).length = size := List.length_take_of_le (by omega)
    refine ⟨rfl,cut,fun empty => ?_,?_,by rw [cut]; omega⟩
    · rw [empty] at cut
      exact none' cut.symm
    · obtain ⟨rest,ended⟩ := ended
      exact ⟨rest,by rw [List.append_assoc,ended,List.take_append_drop]⟩

theorem readBehind {offset : Nat} {rest : Bytes} {piece : Piece} (seen : Piece.read offset rest = piece)
    (settled : piece ≠ .wait) (passed : ∀ error, piece ≠ .fail error) :
    ∃ line tail size, SizeLine line size ∧ line ++ crlf ++ tail = rest ∧
      Piece.behindLine offset line tail size = piece := by
  unfold Piece.read at seen
  cases found : position crlf rest with
  | none => rw [found] at seen; exact absurd seen.symm settled
  | some lineEnd =>
    simp only [found] at seen
    by_cases long : lineEnd > 128
    · rw [if_pos long] at seen
      exact absurd seen.symm (passed _)
    · rw [if_neg long] at seen
      cases sized : chunkSize (rest.take lineEnd) with
      | none => rw [sized] at seen; exact absurd seen.symm (passed _)
      | some size =>
        rw [sized] at seen
        obtain ⟨split,cut⟩ := positionSplit crlfNonempty found
        refine ⟨_,_,size,⟨?_,by omega,sized⟩,split,seen⟩
        rw [cut]
        refine (positionLocal crlfNonempty ⟨rest.drop (lineEnd+2),split⟩ ?_).mpr found
        rw [List.length_append,cut]

structure Chunk where
  line : Bytes
  data : Bytes
  sized : SizeLine line data.length
  nonempty : data ≠ []

def Chunk.encoded (c : Chunk) : Bytes := c.line ++ crlf ++ (c.data ++ crlf)

theorem Chunk.encodedLength (c : Chunk) : c.encoded.length = (c.line.length+2)+(c.data.length+2) := by
  simp only [encoded,List.length_append,show crlf.length = 2 from rfl]

structure Body where
  chunks : List Chunk
  line : Bytes
  trailers : Bytes
  last : SizeLine line 0
  ended : Trailers trailers

namespace Body

def encoded (b : Body) : Bytes := b.chunks.flatMap Chunk.encoded ++ (b.line ++ crlf ++ b.trailers)

def data (b : Body) : Bytes := b.chunks.flatMap Chunk.data

def cons (c : Chunk) (b : Body) : Body := {b with chunks := c::b.chunks}

theorem consEncoded (c : Chunk) (b : Body) : (cons c b).encoded = c.encoded ++ b.encoded := by
  simp [encoded,cons]

end Body

theorem readChunk {offset : Nat} {rest line data : Bytes} (seen : Piece.read offset rest = .chunk line data) :
    ∃ (c : Chunk) (more : Bytes), c.line = line ∧ c.data = data ∧ c.encoded ++ more = rest ∧
      offset+c.encoded.length ≤ maxResponseBytes := by
  obtain ⟨_,tail,size,lined,split,behind⟩ := readBehind seen (by simp) (by simp)
  obtain ⟨rfl,rfl,nonempty,⟨more,rfl⟩,within⟩ := behindLineChunk behind
  refine ⟨⟨line,data,lined,nonempty⟩,more,rfl,rfl,?_,?_⟩
  · rw [← split,Chunk.encoded,List.append_assoc]
  · rw [Chunk.encodedLength,← Nat.add_assoc]
    exact within

theorem readLast {offset : Nat} {rest line trailers : Bytes} (seen : Piece.read offset rest = .last line trailers) :
    SizeLine line 0 ∧ Trailers trailers ∧ line ++ crlf ++ trailers <+: rest := by
  obtain ⟨_,tail,size,lined,split,behind⟩ := readBehind seen (by simp) (by simp)
  obtain ⟨rfl,rfl,ended,⟨more,rfl⟩⟩ := behindLineLast behind
  exact ⟨lined,ended,⟨more,by rw [← split,List.append_assoc]⟩⟩

theorem chunkAdvances {encoded line data : Bytes} {offset : Nat}
    (inside : offset ≤ encoded.length) (seen : Piece.read offset (encoded.drop offset) = .chunk line data) :
    offset < offset+(line.length+2)+(data.length+2) ∧
      offset+(line.length+2)+(data.length+2) ≤ encoded.length := by
  obtain ⟨c,more,rfl,rfl,here,_⟩ := readChunk seen
  have size := congrArg List.length here
  rw [List.length_append,List.length_drop,c.encodedLength] at size
  omega

theorem scanPanicFree {encoded : Bytes} (fuel : Nat) {offset : Nat} (inside : offset ≤ encoded.length)
    (enough : encoded.length < fuel+offset) : chunkedBodyLoop encoded fuel offset ≠ .panic := by
  induction fuel generalizing offset with
  | zero => omega
  | succ fuel ih =>
    rw [chunkedStep inside]
    cases seen : Piece.read offset (encoded.drop offset) with
    | wait => simp [Piece.scan]
    | fail error => simp [Piece.scan]
    | last line trailers => simp [Piece.scan]
    | chunk line data =>
      obtain ⟨further,reach⟩ := chunkAdvances inside seen
      exact ih reach (by omega)

theorem scanStable {encoded : Bytes} {result : Outcome String (Option Nat)} (fuel : Nat) {offset fuel' : Nat}
    (inside : offset ≤ encoded.length) (scanned : chunkedBodyLoop encoded fuel offset = result)
    (settled : result ≠ .ok none) (returned : result ≠ .panic) (enough : fuel ≤ fuel') (more : Bytes) :
    chunkedBodyLoop (encoded ++ more) fuel' offset = result := by
  induction fuel generalizing offset fuel' with
  | zero => exact absurd scanned.symm returned
  | succ fuel ih =>
    obtain ⟨fuel',rfl⟩ : ∃ k, fuel' = k+1 := ⟨fuel'-1,by omega⟩
    have further : offset ≤ (encoded ++ more).length := by
      rw [List.length_append]
      omega
    rw [chunkedStep inside] at scanned
    have seen : Piece.read offset (encoded.drop offset) ≠ .wait := by
      intro wait
      rw [wait] at scanned
      exact settled scanned.symm
    rw [chunkedStep further,List.drop_append_of_le_length inside,readStable seen]
    cases piece : Piece.read offset (encoded.drop offset) with
    | wait => exact absurd piece seen
    | fail error => rw [← scanned,piece]; rfl
    | last line trailers => rw [← scanned,piece]; rfl
    | chunk line data =>
      rw [piece] at scanned
      exact ih (chunkAdvances inside piece).2 scanned (by omega)

theorem scannedBody {encoded : Bytes} {n : Nat} (fuel : Nat) {offset : Nat} (inside : offset ≤ encoded.length)
    (scanned : chunkedBodyLoop encoded fuel offset = .ok (some n)) :
    ∃ b : Body, b.encoded <+: encoded.drop offset ∧ n = offset+b.encoded.length ∧
      (b.chunks ≠ [] → offset+(b.chunks.flatMap Chunk.encoded).length ≤ maxResponseBytes) := by
  induction fuel generalizing offset with
  | zero => exact absurd scanned (by simp [chunkedBodyLoop])
  | succ fuel ih =>
    rw [chunkedStep inside] at scanned
    cases seen : Piece.read offset (encoded.drop offset) with
    | wait => rw [seen] at scanned; exact absurd scanned (by simp [Piece.scan])
    | fail error => rw [seen] at scanned; exact absurd scanned (by simp [Piece.scan])
    | last line trailers =>
      rw [seen] at scanned
      obtain ⟨lined,ended,laid⟩ := readLast seen
      refine ⟨⟨[],line,trailers,lined,ended⟩,laid,?_,fun some => absurd rfl some⟩
      have stop := Option.some.inj (Outcome.ok.inj scanned)
      simp only [Body.encoded,List.flatMap_nil,List.nil_append,List.length_append,show crlf.length = 2 from rfl]
      omega
    | chunk line data =>
      rw [seen] at scanned
      have reach := (chunkAdvances inside seen).2
      obtain ⟨c,more,rfl,rfl,here,within⟩ := readChunk seen
      simp only [Piece.scan,Nat.add_assoc offset,← c.encodedLength] at scanned reach
      have next : encoded.drop (offset+c.encoded.length) = more := by
        rw [← List.drop_drop,← here,List.drop_left]
      obtain ⟨b,⟨rest,laid⟩,stop,limit⟩ := ih reach scanned
      refine ⟨b.cons c,⟨rest,?_⟩,?_,fun _ => ?_⟩
      · rw [Body.consEncoded,List.append_assoc,laid,next,here]
      · rw [Body.consEncoded,List.length_append,stop,Nat.add_assoc]
      · simp only [Body.cons,List.flatMap_cons,List.length_append]
        by_cases none' : b.chunks = []
        · simpa [none'] using within
        · have := limit none'
          omega

theorem SizeLine.found {line : Bytes} {size : Nat} (lined : SizeLine line size) (rest : Bytes) :
    position crlf (line ++ crlf ++ rest) = some line.length :=
  positionAppend crlfNonempty lined.ends rest

theorem decodeLast {line : Bytes} (lined : SizeLine line 0) (rest decoded : Bytes) (fuel : Nat) :
    decodeChunkedLoop (fuel+1) (line ++ crlf ++ rest) decoded = .ok decoded := by
  have length : (line ++ crlf).length = line.length+2 := by simp [show crlf.length = 2 from rfl]
  rw [decodeChunkedLoop,lined.found rest]
  simp only [if_neg (Nat.not_lt.mpr lined.short)]
  rw [sliceIn (Nat.zero_le _) (by rw [List.length_append,length]; omega),Outcome.okBind,Nat.sub_zero,
    List.drop_zero,List.append_assoc,List.take_left,lined.sized]
  simp only
  rw [← List.append_assoc,sliceRest (by rw [List.length_append,length]; omega),Outcome.okBind,if_pos trivial]

theorem decodeChunk (c : Chunk) (rest decoded : Bytes) (fuel : Nat) :
    decodeChunkedLoop (fuel+1) (c.encoded ++ rest) decoded =
      if decoded.length+c.data.length > maxResponseBytes then .err "response body exceeds the size limit"
      else decodeChunkedLoop fuel rest (decoded ++ c.data) := by
  have length : (c.line ++ crlf).length = c.line.length+2 := by simp [show crlf.length = 2 from rfl]
  have split : c.encoded ++ rest = c.line ++ crlf ++ (c.data ++ (crlf ++ rest)) := by
    simp [Chunk.encoded]
  have nonzero : c.data.length ≠ 0 := fun empty => c.nonempty (List.length_eq_zero_iff.mp empty)
  have behind : (c.data ++ (crlf ++ rest)).drop c.data.length = crlf ++ rest := List.drop_left
  have room : c.data.length+2 ≤ (c.data ++ (crlf ++ rest)).length := by
    simp only [List.length_append,show crlf.length = 2 from rfl]
    omega
  rw [split,decodeChunkedLoop,c.sized.found]
  simp only [if_neg (Nat.not_lt.mpr c.sized.short)]
  rw [sliceIn (Nat.zero_le _) (by rw [List.length_append,length]; omega),Outcome.okBind,Nat.sub_zero,
    List.drop_zero,List.append_assoc c.line,List.take_left,c.sized.sized]
  simp only
  rw [← List.append_assoc c.line,sliceRest (by rw [List.length_append,length]; omega),Outcome.okBind,
    ← length,List.drop_left,if_neg nonzero,getRangeIn (Nat.zero_le _) (by omega),Nat.sub_zero,List.drop_zero,
    List.take_left]
  simp only
  rw [if_neg (not_not_intro ((getRangeCrlf room).mpr (by rw [behind]; exact List.prefix_append _ _))),
    sliceRest room,Outcome.okBind,← List.drop_drop,behind]
  rfl

theorem decodeBody (b : Body) {decoded : Bytes} (rest : Bytes) (fuel : Nat) (enough : b.chunks.length < fuel)
    (within : b.chunks ≠ [] → decoded.length+b.data.length ≤ maxResponseBytes) :
    decodeChunkedLoop fuel (b.encoded ++ rest) decoded = .ok (decoded ++ b.data) := by
  obtain ⟨chunks,line,trailers,lined,ended⟩ := b
  obtain ⟨fuel,rfl⟩ : ∃ k, fuel = k+1 := ⟨fuel-1,by omega⟩
  induction chunks generalizing decoded fuel with
  | nil =>
    simp only [Body.encoded,Body.data,List.flatMap_nil,List.nil_append,List.append_nil,List.append_assoc line,
      List.append_assoc crlf]
    rw [← List.append_assoc line]
    exact decodeLast lined _ _ _
  | cons c chunks ih =>
    have limit := within (by simp)
    obtain ⟨fuel,rfl⟩ : ∃ k, fuel = k+1 := ⟨fuel-1,by simp at enough; omega⟩
    have whole := Body.consEncoded c ⟨chunks,line,trailers,lined,ended⟩
    simp only [Body.cons] at whole
    simp only [Body.data,List.flatMap_cons,List.length_append] at limit
    rw [whole,List.append_assoc,decodeChunk,if_neg (by omega),ih (fun _ => ?_) fuel (by simp at enough ⊢; omega)]
    · simp [Body.data]
    · simp only [Body.data,List.length_append]
      omega

theorem decodePanicFree (fuel : Nat) {encoded decoded : Bytes} (enough : encoded.length < fuel) :
    decodeChunkedLoop fuel encoded decoded ≠ .panic := by
  induction fuel generalizing encoded decoded with
  | zero => omega
  | succ fuel ih =>
    unfold decodeChunkedLoop
    cases found : position crlf encoded with
    | none => simp
    | some lineEnd =>
      have room : lineEnd+2 ≤ encoded.length := positionInside crlfNonempty found
      simp only
      split_ifs
      · simp
      · rw [sliceIn (Nat.zero_le _) (by omega),Outcome.okBind]
        cases chunkSize ((encoded.drop 0).take (lineEnd-0)) with
        | none => simp
        | some size =>
          simp only
          rw [sliceRest room,Outcome.okBind]
          by_cases none' : size = 0
          · simp [none']
          · by_cases large : decoded.length+size > maxResponseBytes
            · simp [none',large]
            · rw [if_neg none',if_neg large]
              cases getRange (encoded.drop (lineEnd+2)) 0 size with
              | none => simp
              | some chunk =>
                simp only
                split_ifs with ended
                · simp
                · have inside : size+2 ≤ (encoded.drop (lineEnd+2)).length := by
                    by_contra outside
                    refine ended ?_
                    rw [getRange,if_neg (fun range => outside range.2)]
                    simp
                  rw [sliceRest inside,Outcome.okBind]
                  apply ih
                  rw [List.length_drop,List.length_drop]
                  omega

theorem Body.chunksFit (b : Body) : b.chunks.length < b.encoded.length+1 ∧
    b.data.length ≤ (b.chunks.flatMap Chunk.encoded).length := by
  obtain ⟨chunks,line,trailers,lined,ended⟩ := b
  have each : chunks.length ≤ (chunks.flatMap Chunk.encoded).length ∧
      (chunks.flatMap Chunk.data).length ≤ (chunks.flatMap Chunk.encoded).length := by
    induction chunks with
    | nil => simp
    | cons c chunks ih =>
      simp only [List.flatMap_cons,List.length_append,List.length_cons,c.encodedLength]
      omega
  simp only [Body.encoded,Body.data,List.length_append]
  omega

theorem decodeWhole (b : Body) (within : (b.chunks.flatMap Chunk.encoded).length ≤ maxResponseBytes)
    {encoded : Bytes} (laid : b.encoded <+: encoded) : decodeChunkedBody encoded = .ok b.data := by
  obtain ⟨rest,rfl⟩ := laid
  have fit := b.chunksFit
  refine decodeBody b rest _ ?_ fun _ => ?_
  · rw [List.length_append]
    omega
  · rw [List.length_nil]
    omega

example : decodeChunkedBody (asBytes "2;x\r\nhi\r\n0\r\n\r\n") = .ok (asBytes "hi") := by decide +kernel

theorem chunkedBodySound (e : Bytes) :
    (∀ n, chunkedBodyLength e = .ok (some n) →
      n ≤ e.length ∧
      (∃ b : Body, e.take n = b.encoded ∧ b.data.length ≤ 65536 ∧
        decodeChunkedBody (e.take n) = .ok b.data ∧ decodeChunkedBody e = .ok b.data) ∧
      ∀ s, chunkedBodyLength (e ++ s) = .ok (some n)) ∧
    (∀ error, chunkedBodyLength e = .err error → ∀ s, chunkedBodyLength (e ++ s) = .err error) ∧
    chunkedBodyLength e ≠ .panic ∧ decodeChunkedBody e ≠ .panic := by
  have stable : ∀ result, chunkedBodyLength e = result → result ≠ .ok none → result ≠ .panic →
      ∀ s, chunkedBodyLength (e ++ s) = result := fun result scanned settled returned s =>
    scanStable (e.length+1) (Nat.zero_le _) scanned settled returned (by rw [List.length_append]; omega) s
  refine ⟨fun n scanned => ?_,fun error scanned => stable _ scanned (by simp) (by simp),
    scanPanicFree _ (Nat.zero_le _) (by omega),decodePanicFree _ (Nat.lt_succ_self _)⟩
  obtain ⟨b,laid,stop,limit⟩ := scannedBody _ (Nat.zero_le _) scanned
  rw [List.drop_zero] at laid
  rw [Nat.zero_add] at stop limit
  have within : (b.chunks.flatMap Chunk.encoded).length ≤ maxResponseBytes := by
    by_cases none' : b.chunks = []
    · simp [none']
    · exact limit none'
  have cut : e.take n = b.encoded := by
    rw [stop]
    exact (List.prefix_iff_eq_take.mp laid).symm
  refine ⟨by rw [stop]; exact laid.length_le,⟨b,cut,?_,?_,decodeWhole b within laid⟩,
    stable _ scanned (by simp) (by simp)⟩
  · exact Nat.le_trans b.chunksFit.2 within
  · rw [cut]
    exact decodeWhole b within (List.prefix_refl _)

end Setup

end Chromiacast
