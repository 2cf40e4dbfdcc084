import Chromiacast.ChunkedBody

/-! The response of the setup service, as it is read and parsed. After every read the
extent of the response is worked out again from all bytes so far. HTTP heads and JSON are
parsed by libraries; of the first only what the loop relies on is assumed. -/
namespace Chromiacast.Setup
open Basis

def maxHeaderBytes : Nat := 16*1024
def maxManufacturerBytes : Nat := 256
def maxModelNameBytes : Nat := 256
def maxProductNameBytes : Nat := 256
def maxSsdpUdnBytes : Nat := 256

structure Header where
  name : String
  value : Bytes
  deriving DecidableEq, Repr

structure Head where
  length : Nat
  code : Option UInt16
  headers : List Header
  deriving DecidableEq, Repr

/- `httparse::Response::parse`, with `none` for a head that is not complete. A head is made of its
own bytes, and what follows it changes neither a head nor an error. -/
structure HttpParser where
  parse : Bytes → Except String (Option Head)
  complete : ∀ {response : Bytes} {head : Head}, parse response = .ok (some head) →
    ∀ more, parse (response ++ more) = .ok (some head)
  failed : ∀ {response : Bytes} {error : String}, parse response = .error error →
    ∀ more, parse (response ++ more) = .error error
  within : ∀ {response : Bytes} {head : Head}, parse response = .ok (some head) →
    head.length ≤ response.length ∧ parse (response.take head.length) = .ok (some head)

structure SetupDeviceInfo where
  manufacturer : Option String
  modelName : Option String
  productName : Option String
  ssdpUdn : Option String
  deriving DecidableEq, Repr

inductive SetupInfoOutcome where
  | available (info : SetupDeviceInfo)
  | unsupported
  deriving DecidableEq, Repr

def eqIgnoreAsciiCase (left right : List Char) : Bool := left.map Char.toLower = right.map Char.toLower

namespace Head

def headerValue (parsed : Head) (name : String) : Option String :=
  parsed.headers.findSome? fun header =>
    if eqIgnoreAsciiCase header.name.toList name.toList then fromUtf8 header.value else none

def chunked (parsed : Head) : Bool :=
  (parsed.headerValue "transfer-encoding").any fun value =>
    (value.toList.splitOn ',').any fun token => eqIgnoreAsciiCase (trim token) "chunked".toList

def contentLength (parsed : Head) : Outcome String (Option Nat) :=
  match parsed.headerValue "content-length" with
  | none => .ok none
  | some value =>
    match fromStrRadix 64 10 (trim value.toList) with
    | none => .err "invalid Content-Length header"
    | some length =>
      if length > maxResponseBytes then .err "response body exceeds the size limit" else .ok (some length)

end Head

section Reading
variable (http : HttpParser)

def responseExtent (response : Bytes) : Outcome String (Option Nat) :=
  match http.parse response with
  | .error error => .err ("parse HTTP response: " ++ error)
  | .ok none => if response.length ≤ maxHeaderBytes then .ok none else .err "HTTP headers exceed the limit"
  | .ok (some parsed) =>
    if parsed.length > maxHeaderBytes then .err "HTTP headers exceed the limit"
    else if parsed.chunked then do
      let body ← slice response parsed.length response.length
      let length ← chunkedBodyLength body
      .ok (length.map fun length => parsed.length+length)
    else do
      let length ← parsed.contentLength
      .ok (length.map fun length => parsed.length+length)

/- The reads of the stream in order; where they end, or with an empty one, the peer has closed. -/
def readHttpResponse (response : Bytes) : List (Except String Bytes) → Outcome String Bytes
  | [] => .ok response
  | .error error::_ => .err ("read response: " ++ error)
  | .ok chunk::rest =>
    if chunk.length = 0 then .ok response
    else if response.length+chunk.length > maxHeaderBytes+maxResponseBytes then
      .err "HTTP response exceeds the size limit"
    else responseExtent http (response ++ chunk) >>= fun extent =>
      match extent with
      | some length =>
        if length ≤ (response ++ chunk).length then .ok ((response ++ chunk).take length)
        else readHttpResponse (response ++ chunk) rest
      | none => readHttpResponse (response ++ chunk) rest

end Reading

def responseBody (parsed : Head) (body : Bytes) : Outcome String Bytes :=
  if parsed.chunked then decodeChunkedBody body
  else do
    match ← parsed.contentLength with
    | some length =>
      match getRange body 0 length with
      | none => .err "truncated HTTP response body"
      | some body => .ok body
    | none => if body.length > maxResponseBytes then .err "response body exceeds the size limit" else .ok body

def isControl (c : Char) : Bool := c.toNat < 0x20 || (0x7F ≤ c.toNat && c.toNat ≤ 0x9F)

def boundedText (field : String) (value : Option String) (maximum : Nat) : Outcome String (Option String) :=
  match value with
  | none => .ok none
  | some value =>
    let value := String.ofList (trim value.toList)
    if value = "" then .ok none
    else if (asBytes value).length > maximum ∨ value.toList.any isControl then
      .err (field ++ " is too long or contains a control character")
    else .ok (some value)

abbrev JsonParser := Bytes → Except String (Option SetupDeviceInfo)

def parseDeviceInfo (json : JsonParser) (body : Bytes) : Outcome String SetupDeviceInfo :=
  match json body with
  | .error error => .err ("parse response JSON: " ++ error)
  | .ok none => .ok ⟨none,none,none,none⟩
  | .ok (some info) => do
    let manufacturer ← boundedText "manufacturer" info.manufacturer maxManufacturerBytes
    let modelName ← boundedText "model_name" info.modelName maxModelNameBytes
    let productName ← boundedText "product_name" info.productName maxProductNameBytes
    let ssdpUdn ← boundedText "ssdp_udn" info.ssdpUdn maxSsdpUdnBytes
    .ok ⟨manufacturer,modelName,productName,ssdpUdn⟩

def parseHttpResponse (http : HttpParser) (json : JsonParser) (response : Bytes) : Outcome String SetupInfoOutcome :=
  match http.parse response with
  | .error error => .err ("parse HTTP response: " ++ error)
  | .ok none => .err "incomplete HTTP response headers"
  | .ok (some parsed) =>
    if parsed.length > maxHeaderBytes then .err "HTTP headers exceed the limit"
    else match parsed.code with
      | none => .err "HTTP response omitted its status"
      | some status =>
        if status = 404 ∨ status = 405 ∨ status = 501 then .ok .unsupported
        else if ¬ (200 ≤ status ∧ status < 300) then .err ("receiver returned HTTP " ++ toString status)
        else do
          let rest ← slice response parsed.length response.length
          let body ← responseBody parsed rest
          let info ← parseDeviceInfo json body
          .ok (.available info)

/- How the verdict on some bytes binds that on more of them. An error stays one, although a head
that is too long may then be called malformed. -/
inductive Binds : Outcome String (Option Nat) → Outcome String (Option Nat) → Prop where
  | wait (later : Outcome String (Option Nat)) : Binds (.ok none) later
  | extent (n : Nat) : Binds (.ok (some n)) (.ok (some n))
  | err (first second : String) : Binds (.err first) (.err second)

theorem Binds.refl {verdict : Outcome String (Option Nat)} (returned : verdict ≠ .panic) : Binds verdict verdict := by
  cases verdict with
  | ok extent =>
    cases extent with
    | none => exact .wait _
    | some n => exact .extent n
  | err error => exact .err error error
  | panic => exact absurd rfl returned

theorem scanReturns (body : Bytes) : chunkedBodyLength body ≠ .panic := scanPanicFree _ (Nat.zero_le _) (by omega)

theorem chunkedBinds (body more : Bytes) : Binds (chunkedBodyLength body) (chunkedBodyLength (body ++ more)) := by
  by_cases wait : chunkedBodyLength body = .ok none
  · rw [wait]
    exact .wait _
  · have same : chunkedBodyLength (body ++ more) = chunkedBodyLength body :=
      scanStable (body.length+1) (Nat.zero_le _) rfl wait (scanReturns body) (by rw [List.length_append]; omega) more
    rw [same]
    exact .refl (scanReturns body)

theorem Binds.shifted {first second : Outcome String (Option Nat)} (binds : Binds first second) (offset : Nat) :
    Binds (first >>= fun length => .ok (length.map fun length => offset+length))
      (second >>= fun length => .ok (length.map fun length => offset+length)) := by
  cases binds with
  | wait later => exact .wait _
  | extent n => exact .extent _
  | err first second => exact .err first second

theorem contentLengthReturns (parsed : Head) : parsed.contentLength ≠ .panic := by
  unfold Head.contentLength
  split
  · simp
  · split
    · simp
    · split <;> simp

section Verdicts
variable {http : HttpParser} {json : JsonParser}

theorem extentReturns (response : Bytes) : responseExtent http response ≠ .panic := by
  unfold responseExtent
  split
  · simp
  · split <;> simp
  · rename_i parsed found
    split
    · simp
    · split
      · rw [sliceRest (http.within found).1,Outcome.okBind]
        exact Outcome.bindReturns (scanReturns _) (by simp)
      · exact Outcome.bindReturns (contentLengthReturns parsed) (by simp)

theorem headBeyond {response more : Bytes} {parsed : Head} (waiting : http.parse response = .ok none)
    (found : http.parse (response ++ more) = .ok (some parsed)) : response.length < parsed.length := by
  by_contra early
  have own := (http.within found).2
  rw [List.take_append_of_le_length (Nat.not_lt.mp early)] at own
  have again := http.complete own (response.drop parsed.length)
  rw [List.take_append_drop,waiting] at again
  cases again

theorem extentTooLong {response : Bytes} (waiting : http.parse response = .ok none)
    (large : maxHeaderBytes < response.length) (more : Bytes) :
    ∃ error, responseExtent http (response ++ more) = .err error := by
  cases later : http.parse (response ++ more) with
  | error error =>
    simp only [responseExtent,later]
    exact ⟨_,rfl⟩
  | ok head =>
    cases head with
    | none =>
      have larger : ¬ (response ++ more).length ≤ maxHeaderBytes := by
        rw [List.length_append]
        omega
      simp only [responseExtent,later,if_neg larger]
      exact ⟨_,rfl⟩
    | some parsed =>
      have long : parsed.length > maxHeaderBytes := Nat.lt_trans large (headBeyond waiting later)
      simp only [responseExtent,later,if_pos long]
      exact ⟨_,rfl⟩

theorem extentBinds (response more : Bytes) :
    Binds (responseExtent http response) (responseExtent http (response ++ more)) := by
  cases parse : http.parse response with
  | error error =>
    simp only [responseExtent,parse,http.failed parse more]
    exact .err _ _
  | ok head =>
    cases head with
    | none =>
      by_cases small : response.length ≤ maxHeaderBytes
      · simp only [responseExtent,parse,if_pos small]
        exact .wait _
      · obtain ⟨error,later⟩ := extentTooLong parse (Nat.not_le.mp small) more
        rw [later]
        simp only [responseExtent,parse,if_neg small]
        exact .err _ _
    | some parsed =>
      have inside := (http.within parse).1
      have inside' : parsed.length ≤ (response ++ more).length := by
        rw [List.length_append]
        omega
      simp only [responseExtent,parse,http.complete parse more,sliceRest inside,sliceRest inside',
        List.drop_append_of_le_length inside,Outcome.okBind]
      split
      · exact .err _ _
      · split
        · exact (chunkedBinds _ _).shifted _
        · exact (Binds.refl (contentLengthReturns parsed)).shifted _

inductive ReadAs (stream : Bytes) : Outcome String (Option Nat) → Outcome String Bytes → Prop where
  | whole : ReadAs stream (.ok none) (.ok stream)
  | extent (n : Nat) : ReadAs stream (.ok (some n)) (.ok (stream.take n))
  | err (verdict error : String) : ReadAs stream (.err verdict) (.err error)

def Waits (http : HttpParser) (response : Bytes) : Prop :=
  ∃ extent, responseExtent http response = .ok extent ∧ ∀ n, extent = some n → response.length < n

theorem Waits.whole {response : Bytes} (waits : Waits http response) :
    ReadAs response (responseExtent http response) (.ok response) := by
  obtain ⟨extent,verdict,beyond⟩ := waits
  rw [verdict]
  cases extent with
  | none => exact .whole
  | some n =>
    have read := @ReadAs.extent response n
    rw [List.take_of_length_le (Nat.le_of_lt (beyond n rfl))] at read
    exact read

theorem readAs {response : Bytes} {reads : List Bytes} (filled : ∀ read ∈ reads, read ≠ [])
    (fits : (response ++ reads.flatten).length ≤ maxHeaderBytes+maxResponseBytes)
    (last : reads = [] → Waits http response) :
    ReadAs (response ++ reads.flatten) (responseExtent http (response ++ reads.flatten))
      (readHttpResponse http response (reads.map .ok)) := by
  induction reads generalizing response with
  | nil =>
    rw [List.flatten_nil,List.append_nil]
    exact (last rfl).whole
  | cons chunk rest ih =>
    have nonempty : chunk.length ≠ 0 := fun zero => filled chunk (by simp) (List.length_eq_zero_iff.mp zero)
    rw [List.flatten_cons,← List.append_assoc] at fits ⊢
    have small : ¬ response.length+chunk.length > maxHeaderBytes+maxResponseBytes := by
      simp only [List.length_append] at fits
      omega
    have later := @ih (response ++ chunk) (fun read member => filled read (List.mem_cons_of_mem _ member)) fits
    have binds := @extentBinds http (response ++ chunk) rest.flatten
    rw [List.map_cons,readHttpResponse,if_neg nonempty,if_neg small]
    cases verdict : responseExtent http (response ++ chunk) with
    | panic => exact absurd verdict (extentReturns _)
    | err error =>
      rw [verdict] at binds
      generalize responseExtent http (response ++ chunk ++ rest.flatten) = final at binds ⊢
      cases binds with
      | err => exact .err _ _
    | ok extent =>
      rw [Outcome.okBind]
      cases extent with
      | none => exact later fun _ => ⟨none,verdict,by simp⟩
      | some n =>
        by_cases reached : n ≤ (response ++ chunk).length
        · rw [verdict] at binds
          generalize responseExtent http (response ++ chunk ++ rest.flatten) = final at binds ⊢
          simp only [if_pos reached]
          rw [← List.take_append_of_le_length reached]
          cases binds with
          | extent => exact .extent n
        · simp only [if_neg reached]
          exact later fun _ => ⟨some n,verdict,fun m same => by cases same; omega⟩

theorem bodyReturns (parsed : Head) (body : Bytes) : responseBody parsed body ≠ .panic := by
  unfold responseBody
  split
  · exact decodePanicFree _ (Nat.lt_succ_self _)
  · refine Outcome.bindReturns (contentLengthReturns parsed) fun length => ?_
    cases length with
    | none =>
      simp only
      split <;> simp
    | some length =>
      simp only
      split <;> simp

theorem textReturns (field : String) (value : Option String) (maximum : Nat) :
    boundedText field value maximum ≠ .panic := by
  unfold boundedText
  split
  · simp
  · simp only
    split_ifs <;> simp

theorem infoReturns (body : Bytes) : parseDeviceInfo json body ≠ .panic := by
  unfold parseDeviceInfo
  split
  · simp
  · simp
  · refine Outcome.bindReturns (textReturns _ _ _) fun _ => ?_
    refine Outcome.bindReturns (textReturns _ _ _) fun _ => ?_
    refine Outcome.bindReturns (textReturns _ _ _) fun _ => ?_
    exact Outcome.bindReturns (textReturns _ _ _) (by simp)

theorem parseReturns (response : Bytes) : parseHttpResponse http json response ≠ .panic := by
  unfold parseHttpResponse
  split
  · simp
  · simp
  · rename_i parsed found
    split
    · simp
    · split
      · simp
      · split_ifs
        · simp
        · rw [sliceRest (http.within found).1,Outcome.okBind]
          refine Outcome.bindReturns (bodyReturns _ _) fun body => ?_
          exact Outcome.bindReturns (infoReturns body) (by simp)
        · simp

def fetchSetupInfo (http : HttpParser) (json : JsonParser) (reads : List Bytes) : Outcome String SetupInfoOutcome :=
  readHttpResponse http [] (reads.map .ok) >>= parseHttpResponse http json

theorem responseSplitIndependent (http : HttpParser) (json : JsonParser) {first second : List Bytes}
    (some : ∀ read ∈ first, read ≠ []) (some' : ∀ read ∈ second, read ≠ []) (same : first.flatten = second.flatten)
    (fits : first.flatten.length ≤ maxHeaderBytes+maxResponseBytes) :
    fetchSetupInfo http json first ≠ .panic ∧
      (fetchSetupInfo http json first = fetchSetupInfo http json second ∨
        (∃ error, fetchSetupInfo http json first = .err error) ∧
          ∃ error, fetchSetupInfo http json second = .err error) := by
  have empty (reads : List Bytes) (some : ∀ read ∈ reads, read ≠ []) (none' : reads.flatten = []) : reads = [] := by
    cases reads with
    | nil => rfl
    | cons chunk rest => exact absurd (List.append_eq_nil_iff.mp none').1 (some chunk (by simp))
  unfold fetchSetupInfo
  cases first with
  | nil =>
    rw [empty second some' same.symm]
    exact ⟨parseReturns _,.inl rfl⟩
  | cons chunk rest =>
    cases second with
    | nil => exact absurd (empty _ some same) (by simp)
    | cons chunk' rest' =>
      have left := @readAs http [] (chunk::rest) some fits (by simp)
      have right := @readAs http [] (chunk'::rest') some' (by rw [← same]; exact fits) (by simp)
      rw [← same] at right
      generalize responseExtent http ([] ++ (chunk::rest).flatten) = verdict at left right
      generalize readHttpResponse http [] ((chunk::rest).map .ok) = x at left ⊢
      generalize readHttpResponse http [] ((chunk'::rest').map .ok) = y at right ⊢
      cases left with
      | whole =>
        cases right with
        | whole => exact ⟨parseReturns _,.inl rfl⟩
      | extent n =>
        cases right with
        | extent => exact ⟨parseReturns _,.inl rfl⟩
      | err verdict error =>
        cases right with
        | err _ error' => exact ⟨by simp [Outcome.errBind],.inr ⟨⟨error,rfl⟩,⟨error',rfl⟩⟩⟩

end Verdicts

def blankLineParser (headers : List Header) : HttpParser where
  parse response := .ok ((position (crlf ++ crlf) response).map fun length => ⟨length+4,some 200,headers⟩)
  complete found more := by
    obtain ⟨length,here,_⟩ := Option.map_eq_some_iff.mp (Except.ok.inj found)
    rw [here] at found
    rw [positionAppend blankLineNonempty here]
    exact found
  failed found := by cases found
  within found := by
    obtain ⟨length,here,same⟩ := Option.map_eq_some_iff.mp (Except.ok.inj found)
    have inside : length+4 ≤ _ := positionInside blankLineNonempty here
    subst same
    have cut := (positionLocal blankLineNonempty (List.take_prefix (length+4) _)
      (by rw [List.length_take_of_le inside]; rfl)).mpr here
    exact ⟨inside,by rw [cut]; rfl⟩

def exampleHead : Bytes := asBytes "HTTP/1.1 200 OK\r\n\r\n"

def exampleInfo : Bytes := asBytes "\x7b\"device_info\":\x7b\"model_name\":\"TV\"\x7d\x7d"

def exampleJson : JsonParser := fun body =>
  if body = exampleInfo then .ok (some ⟨none,some "TV",none,none⟩) else .error "expected value"

theorem responseSplitOnce :
    fetchSetupInfo (blankLineParser []) exampleJson [exampleHead ++ exampleInfo] =
        .ok (.available ⟨none,some "TV",none,none⟩) ∧
      (fetchSetupInfo (blankLineParser []) exampleJson [exampleHead ++ exampleInfo] =
          fetchSetupInfo (blankLineParser []) exampleJson [exampleHead.take 18,exampleHead.drop 18 ++ exampleInfo] ∨
        (∃ error, fetchSetupInfo (blankLineParser []) exampleJson [exampleHead ++ exampleInfo] = .err error) ∧
          ∃ error, fetchSetupInfo (blankLineParser []) exampleJson
            [exampleHead.take 18,exampleHead.drop 18 ++ exampleInfo] = .err error) := by
  refine ⟨by decide +kernel,?_⟩
  exact (responseSplitIndependent (blankLineParser []) exampleJson (by decide +kernel) (by decide +kernel)
    (by decide +kernel) (by decide +kernel)).2

end Chromiacast.Setup
