import Chromiacast.SetupResponse

/-! Where the size limit falls on a whole chunked body. The scanner counts the chunks
as they are sent and the decoder what they carry, so the scanner's limit is reached
first, by two line ends and a size line for every chunk. -/
namespace Chromiacast.Setup
open Basis

def sizeLimit : String := "response body exceeds the size limit"

theorem readLine {line : Bytes} {size : Nat} (lined : SizeLine line size) (offset : Nat) (tail : Bytes) :
    Piece.read offset (line ++ crlf ++ tail) = Piece.behindLine offset line tail size := by
  have length : (line ++ crlf).length = line.length+2 := by simp [show crlf.length = 2 from rfl]
  rw [Piece.read,lined.found tail]
  simp only [if_neg (Nat.not_lt.mpr lined.short)]
  rw [List.append_assoc,List.take_left,← List.append_assoc,← length,List.drop_left,lined.sized]

theorem readWholeChunk (c : Chunk) (offset : Nat) (rest : Bytes) :
    Piece.read offset (c.encoded ++ rest) =
      if offset+c.encoded.length > maxResponseBytes then .fail sizeLimit else .chunk c.line c.data := by
  have split : c.encoded ++ rest = c.line ++ crlf ++ (c.data ++ (crlf ++ rest)) := by simp [Chunk.encoded]
  have nonzero : c.data.length ≠ 0 := fun empty => c.nonempty (List.length_eq_zero_iff.mp empty)
  have room : ¬ (c.data ++ (crlf ++ rest)).length < c.data.length+2 := by
    simp only [List.length_append,show crlf.length = 2 from rfl]
    omega
  have behind : crlf <+: (c.data ++ (crlf ++ rest)).drop c.data.length := by
    rw [List.drop_left]
    exact List.prefix_append crlf rest
  rw [split,readLine c.sized,Piece.behindLine,if_neg nonzero,if_neg room,if_neg (not_not_intro behind),
    List.take_left,c.encodedLength,Nat.add_assoc offset]
  by_cases large : c.data.length > maxResponseBytes
  · rw [if_pos large,if_pos (by omega)]
    rfl
  · rw [if_neg large]
    rfl

theorem readTrailers {line trailers : Bytes} (lined : SizeLine line 0) (ended : Trailers trailers) (offset : Nat) :
    Piece.read offset (line ++ crlf ++ trailers) = .last line trailers := by
  rw [readLine lined,Piece.behindLine,if_pos rfl]
  rcases ended with rfl | ⟨open',fields,laid,found⟩
  · rw [if_pos (List.prefix_refl _)]
  · rw [if_neg open',found]
    have whole : fields.length+4 = trailers.length := by rw [laid]; simp [show crlf.length = 2 from rfl]
    simp only [whole,List.take_length]

theorem scanBody (b : Body) (front : Bytes) {fuel : Nat} (enough : b.chunks.length < fuel) :
    chunkedBodyLoop (front ++ b.encoded) fuel front.length =
      if b.chunks ≠ [] ∧ front.length+(b.chunks.flatMap Chunk.encoded).length > maxResponseBytes then .err sizeLimit
      else .ok (some (front ++ b.encoded).length) := by
  obtain ⟨chunks,line,trailers,lined,ended⟩ := b
  obtain ⟨fuel,rfl⟩ : ∃ k, fuel = k+1 := ⟨fuel-1,by omega⟩
  have inside (rest : Bytes) : front.length ≤ (front ++ rest).length := by simp
  induction chunks generalizing front fuel with
  | nil =>
    rw [chunkedStep (inside _),List.drop_left,if_neg (by simp)]
    simp only [Body.encoded,List.flatMap_nil,List.nil_append,readTrailers lined ended,Piece.scan,List.length_append,
      show crlf.length = 2 from rfl]
    rw [Nat.add_assoc]
  | cons c chunks ih =>
    obtain ⟨fuel,rfl⟩ : ∃ k, fuel = k+1 := ⟨fuel-1,by simp at enough; omega⟩
    have whole := Body.consEncoded c ⟨chunks,line,trailers,lined,ended⟩
    simp only [Body.cons] at whole
    rw [chunkedStep (inside _),List.drop_left,whole,readWholeChunk]
    by_cases beyond : front.length+c.encoded.length > maxResponseBytes
    · rw [if_pos beyond,if_pos ⟨by simp,by simp only [List.flatMap_cons,List.length_append]; omega⟩]
      rfl
    · rw [if_neg beyond]
      have next := ih (front ++ c.encoded) fuel (by simp at enough ⊢; omega) (by simp)
      simp only [Piece.scan]
      rw [Nat.add_assoc,← c.encodedLength,← List.append_assoc,← List.length_append,next]
      -- the first chunk alone keeps within the limit, so an empty rest does too
      by_cases none' : chunks = []
      · subst none'
        rw [if_neg (by simp),if_neg (by simp at beyond ⊢; omega)]
      · simp only [ne_eq,none',not_false_eq_true,true_and,reduceCtorEq,List.flatMap_cons,List.length_append,
          Nat.add_assoc]

theorem decodeLimited (b : Body) (decoded : Bytes) {fuel : Nat} (enough : b.chunks.length < fuel) :
    decodeChunkedLoop fuel b.encoded decoded =
      if b.chunks ≠ [] ∧ decoded.length+b.data.length > maxResponseBytes then .err sizeLimit
      else .ok (decoded ++ b.data) := by
  by_cases beyond : b.chunks ≠ [] ∧ decoded.length+b.data.length > maxResponseBytes
  · rw [if_pos beyond]
    obtain ⟨chunks,line,trailers,lined,ended⟩ := b
    obtain ⟨fuel,rfl⟩ : ∃ k, fuel = k+1 := ⟨fuel-1,by omega⟩
    induction chunks generalizing decoded fuel with
    | nil => exact absurd rfl beyond.1
    | cons c chunks ih =>
      obtain ⟨fuel,rfl⟩ : ∃ k, fuel = k+1 := ⟨fuel-1,by simp at enough; omega⟩
      have whole := Body.consEncoded c ⟨chunks,line,trailers,lined,ended⟩
      have size := beyond.2
      simp only [Body.cons] at whole
      simp only [Body.data,List.flatMap_cons,List.length_append] at size
      rw [whole,decodeChunk]
      by_cases here : decoded.length+c.data.length > maxResponseBytes
      · rw [if_pos here]
        rfl
      · rw [if_neg here]
        refine ih (decoded ++ c.data) ⟨fun none' => ?_,?_⟩ fuel (by simp at enough ⊢; omega)
        · simp only at none'
          subst none'
          simp at size
          omega
        · simp only [Body.data,List.length_append]
          omega
  · rw [if_neg beyond]
    have read := decodeBody b [] fuel enough fun some => Nat.not_lt.mp fun large => beyond ⟨some,large⟩
    rwa [List.append_nil] at read

section Limits
variable (b : Body)

def Body.sent : Nat := (b.chunks.flatMap Chunk.encoded).length

theorem scanWhole : chunkedBodyLength b.encoded =
    if maxResponseBytes < b.sent then .err sizeLimit else .ok (some b.encoded.length) := by
  have scanned := scanBody b [] b.chunksFit.1
  rw [List.nil_append,List.length_nil,Nat.zero_add] at scanned
  rw [chunkedBodyLength,scanned]
  by_cases none' : b.chunks = []
  · rw [if_neg (by simp [none']),if_neg (by simp [Body.sent,none'])]
  · by_cases large : maxResponseBytes < b.sent
    · rw [if_pos large,if_pos ⟨none',large⟩]
    · rw [if_neg large,if_neg fun both => large both.2]

theorem decodeWholeLimited : decodeChunkedBody b.encoded =
    if maxResponseBytes < b.data.length then .err sizeLimit else .ok b.data := by
  have decoded := decodeLimited b [] b.chunksFit.1
  rw [List.nil_append,List.length_nil,Nat.zero_add] at decoded
  rw [decodeChunkedBody,decoded]
  by_cases none' : b.chunks = []
  · rw [if_neg (by simp [none']),if_neg (by simp [Body.data,none'])]
  · simp only [ne_eq,none',not_false_eq_true,true_and,gt_iff_lt]

def Body.Clear : Prop := b.sent ≤ maxResponseBytes ∨ maxResponseBytes < b.data.length

structure Declares (http : HttpParser) (head : Bytes) (parsed : Head) (length : Nat) : Prop where
  complete : http.parse head = .ok (some parsed)
  whole : parsed.length = head.length
  short : head.length ≤ maxHeaderBytes
  plain : parsed.chunked = false
  declared : ∃ value, parsed.headerValue "content-length" = some value ∧
    fromStrRadix 64 10 (trim value.toList) = some length

theorem Declares.contentLength {http : HttpParser} {head : Bytes} {parsed : Head} {length : Nat}
    (declares : Declares http head parsed length) :
    parsed.contentLength = if maxResponseBytes < length then .err sizeLimit else .ok (some length) := by
  obtain ⟨value,present,read⟩ := declares.declared
  simp only [Head.contentLength,present,read]
  rfl

theorem Declares.extent {http : HttpParser} {head data : Bytes} {parsed : Head}
    (declares : Declares http head parsed data.length) : responseExtent http (head ++ data) =
      if maxResponseBytes < data.length then .err sizeLimit else .ok (some (head ++ data).length) := by
  have short : ¬ parsed.length > maxHeaderBytes := Nat.not_lt.mpr (declares.whole ▸ declares.short)
  simp only [responseExtent,http.complete declares.complete data,if_neg short,declares.plain,declares.contentLength,
    Bool.false_eq_true,if_false]
  split
  · rfl
  · rw [Outcome.okBind,Option.map_some,declares.whole,List.length_append]

theorem Declares.body {http : HttpParser} {head data : Bytes} {parsed : Head}
    (declares : Declares http head parsed data.length) : responseBody parsed data =
      if maxResponseBytes < data.length then .err sizeLimit else .ok data := by
  simp only [responseBody,declares.plain,declares.contentLength,Bool.false_eq_true,if_false]
  split
  · rfl
  · simp only [Outcome.okBind,getRangeIn (Nat.zero_le _) le_rfl,Nat.sub_zero,List.drop_zero,List.take_length]

/- The scanner refuses what the decoder refuses exactly if the framing alone does not exceed the
limit. With its length declared the body is refused by what it carries. -/
theorem sizeLimitsAgree :
    ((chunkedBodyLength b.encoded = .err sizeLimit ↔ maxResponseBytes < b.data.length) ↔ b.Clear) ∧
      ((chunkedBodyLength b.encoded = .err sizeLimit ↔ decodeChunkedBody b.encoded = .err sizeLimit) ↔ b.Clear) ∧
      (b.Clear → b.data.length ≤ maxResponseBytes →
        chunkedBodyLength b.encoded = .ok (some b.encoded.length) ∧ decodeChunkedBody b.encoded = .ok b.data) ∧
      ∀ http head parsed, Declares http head parsed b.data.length →
        (responseExtent http (head ++ b.data) = .err sizeLimit ↔ maxResponseBytes < b.data.length) ∧
        (b.data.length ≤ maxResponseBytes →
          responseExtent http (head ++ b.data) = .ok (some (head ++ b.data).length) ∧
            responseBody parsed b.data = .ok b.data) := by
  have carried : b.data.length ≤ b.sent := b.chunksFit.2
  have scanned : chunkedBodyLength b.encoded = .err sizeLimit ↔ maxResponseBytes < b.sent := by
    rw [scanWhole]
    split <;> simp [*]
  have decoded : decodeChunkedBody b.encoded = .err sizeLimit ↔ maxResponseBytes < b.data.length := by
    rw [decodeWholeLimited]
    split <;> simp [*]
  have exactly : (maxResponseBytes < b.sent ↔ maxResponseBytes < b.data.length) ↔ b.Clear := by
    rw [Body.Clear]
    omega
  rw [scanned,decoded]
  refine ⟨exactly,exactly,fun clear small => ?_,fun http head parsed declares => ⟨?_,fun small => ?_⟩⟩
  · have fits : ¬ maxResponseBytes < b.sent := clear.elim Nat.not_lt.mpr fun large => absurd large (Nat.not_lt.mpr small)
    rw [scanWhole,decodeWholeLimited,if_neg fits,if_neg (Nat.not_lt.mpr small)]
    exact ⟨rfl,rfl⟩
  · rw [declares.extent]
    split <;> simp [*]
  · rw [declares.extent,declares.body,if_neg (Nat.not_lt.mpr small),if_neg (Nat.not_lt.mpr small)]
    exact ⟨rfl,rfl⟩

end Limits

def oneChunk (text : String) (size : Nat) (sized : SizeLine (asBytes text) size) (some : size ≠ 0) : Body where
  chunks := [⟨asBytes text,List.replicate size 0x61,by rwa [List.length_replicate],by simpa using some⟩]
  line := asBytes "0"
  trailers := crlf
  last := ⟨by decide +kernel,by decide +kernel,by decide +kernel⟩
  ended := .inl rfl

theorem oneChunkSizes {text : String} {size : Nat} (sized : SizeLine (asBytes text) size) (some : size ≠ 0) :
    (oneChunk text size sized some).data.length = size ∧
      (oneChunk text size sized some).sent = (asBytes text).length+2+(size+2) := by
  simp [oneChunk,Body.data,Body.sent,Chunk.encodedLength]

theorem sizeTwo : SizeLine (asBytes "2") 2 := ⟨by decide +kernel,by decide +kernel,by decide +kernel⟩

theorem sizeFull : SizeLine (asBytes "10000") 65536 := ⟨by decide +kernel,by decide +kernel,by decide +kernel⟩

theorem smallDeclared : Declares (blankLineParser [⟨"Content-Length",asBytes " 2"⟩]) exampleHead
    ⟨19,some 200,[⟨"Content-Length",asBytes " 2"⟩]⟩ 2 :=
  ⟨by decide +kernel,by decide +kernel,by decide +kernel,by decide +kernel," 2",by decide +kernel,by decide +kernel⟩

theorem smallBodyAgrees :
    let b := oneChunk "2" 2 sizeTwo (by decide)
    b.sent ≤ maxResponseBytes ∧ chunkedBodyLength b.encoded = .ok (some b.encoded.length) ∧
      decodeChunkedBody b.encoded = .ok b.data ∧
      responseBody ⟨19,some 200,[⟨"Content-Length",asBytes " 2"⟩]⟩ b.data = .ok b.data := by
  intro b
  obtain ⟨data,sent⟩ := oneChunkSizes sizeTwo (by decide)
  have fits : b.sent ≤ maxResponseBytes := by
    rw [sent]
    decide +kernel
  have small : b.data.length ≤ maxResponseBytes := by
    rw [data]
    decide
  obtain ⟨_,_,agree,declared⟩ := sizeLimitsAgree b
  obtain ⟨scanned,decoded⟩ := agree (.inl fits) small
  exact ⟨fits,scanned,decoded,((declared _ _ _ (by rw [data]; exact smallDeclared)).2 small).2⟩

theorem fullChunkRefused :
    let b := oneChunk "10000" 65536 sizeFull (by decide)
    b.data.length = maxResponseBytes ∧ chunkedBodyLength b.encoded = .err sizeLimit ∧
      decodeChunkedBody b.encoded = .ok b.data := by
  intro b
  obtain ⟨data,sent⟩ := oneChunkSizes sizeFull (by decide)
  have line : (asBytes "10000").length = 5 := by decide +kernel
  rw [line] at sent
  refine ⟨data,?_,?_⟩
  · rw [scanWhole,if_pos (by rw [sent]; decide)]
  · rw [decodeWholeLimited,if_neg (by rw [data]; decide)]

end Chromiacast.Setup
