import Chromiacast.Revocations
import Chromiacast.VarintCodecs

/-! Authentication of a receiver. The certificate parser, the path builder, the digest and the
signature check are those of the libraries and stay parameters; the clock is given by what each
of its readings returned, in seconds since the epoch if it does not predate it. -/
namespace Chromiacast
open Basis

namespace Auth

def nonceSize : Nat := 16

def maxTlsCertificateLifetime : Nat := 4*24*60*60

def audioOnlyPolicyOid : String := "1.3.6.1.4.1.11129.2.5.2"

inductive SignatureAlgorithm where
  | pkcs1V15
  | pss
  deriving DecidableEq, Repr

inductive HashAlgorithm where
  | sha1
  | sha256
  deriving DecidableEq, Repr

def SignatureAlgorithm.wire : SignatureAlgorithm → UInt64
  | pkcs1V15 => 1
  | pss => 2

def HashAlgorithm.wire : HashAlgorithm → UInt64
  | sha1 => 0
  | sha256 => 1

def SignatureAlgorithm.fromWire (value : UInt64) : Outcome String SignatureAlgorithm :=
  if value = 1 then .ok .pkcs1V15
  else if value = 2 then .ok .pss
  else .err ("unsupported device signature algorithm " ++ toString value)

def HashAlgorithm.fromWire (value : UInt64) : Outcome String HashAlgorithm :=
  if value = 0 then .ok .sha1
  else if value = 1 then .ok .sha256
  else .err ("unsupported device hash algorithm " ++ toString value)

def encodeVarintField (field : UInt32) (value : UInt64) : Bytes :=
  encodeVarint (field.toUInt64 <<< 3) ++ encodeVarint value

def encodeBytesField (field : UInt32) (value : Bytes) : Bytes :=
  encodeVarint ((field.toUInt64 <<< 3) ||| 2) ++ encodeVarint (UInt64.ofNat value.length) ++ value

structure AuthChallenge where
  nonce : Vector UInt8 nonceSize
  payload : Bytes
  deriving DecidableEq, Repr

def createChallenge (nonce : Vector UInt8 nonceSize) : AuthChallenge :=
  let challenge := encodeVarintField 1 SignatureAlgorithm.pkcs1V15.wire ++ encodeBytesField 2 nonce.toList ++
    encodeVarintField 3 HashAlgorithm.sha256.wire
  ⟨nonce,encodeBytesField 1 challenge⟩

structure AuthResponse where
  signature : Bytes
  clientAuthCertificate : Bytes
  intermediateCertificates : List Bytes
  signatureAlgorithm : SignatureAlgorithm
  senderNonce : Option Bytes
  hashAlgorithm : HashAlgorithm
  crl : Option Bytes
  deriving DecidableEq, Repr

def parseResponse (response : Bytes) : Outcome String AuthResponse := do
  let fields ← parseFields response
  let signature ← require (bytes fields 1) "device-auth response has no signature"
  let certificate ← require (bytes fields 2) "device-auth response has no device certificate"
  let signatureAlgorithm ← SignatureAlgorithm.fromWire ((varint fields 4).getD 1)
  let hashAlgorithm ← HashAlgorithm.fromWire ((varint fields 6).getD 0)
  .ok ⟨signature,certificate,bytesAll fields 3,signatureAlgorithm,bytes fields 5,hashAlgorithm,bytes fields 7⟩

def parseDeviceAuthMessage (data : Bytes) : Outcome String AuthResponse := do
  let fields ← parseFields data
  match bytes fields 3 with
  | some error =>
    let errorFields ← parseFields error
    .err ("receiver rejected authentication challenge with error " ++ toString ((varint errorFields 1).getD 0))
  | none =>
    let response ← require (bytes fields 2) "device-auth reply contains no response"
    parseResponse response

def encodeValue : UInt32 × WireValue → Bytes
  | (field,.varint value) => encodeVarintField field value
  | (field,.bytes contents) => encodeBytesField field contents

def Writable (fields : Fields) : Prop :=
  ∀ field ∈ fields, field.1 ≠ 0 ∧ ∀ contents, field.2 = .bytes contents → contents.length < 2^64

def asWire : UInt32 × WireValue → WireField
  | (field,.varint value) => .varint field.toNat value
  | (field,.bytes contents) => .lengthDelimited field.toNat contents

theorem tagValue (field : UInt32) : (field.toUInt64 <<< 3).toNat = 2^3*field.toNat := by
  have small := field.toNat_lt
  have three : (3 : UInt64).toNat%64 = 3 := rfl
  rw [UInt64.toNat_shiftLeft,UInt32.toNat_toUInt64,three,Nat.shiftLeft_eq]
  omega

theorem encodeVarintWord (value : UInt64) : Varint.Word (encodeVarint value) value := by
  rw [(encodersAgree value).1]
  exact Chromiacast.encodeVarintWord value

theorem encodeVarintFieldShort (field : UInt32) (value : UInt64) : (encodeVarintField field value).length ≤ 20 := by
  have tag := (encodeVarintWord (field.toUInt64 <<< 3)).short
  have rest := (encodeVarintWord value).short
  rw [encodeVarintField,List.length_append]
  omega

theorem encodeBytesFieldShort (field : UInt32) (value : Bytes) :
    (encodeBytesField field value).length ≤ 20+value.length := by
  have tag := (encodeVarintWord ((field.toUInt64 <<< 3) ||| 2)).short
  have length := (encodeVarintWord (UInt64.ofNat value.length)).short
  rw [encodeBytesField,List.length_append,List.length_append]
  omega

theorem encodeValueWire {field : UInt32 × WireValue}
    (fits : ∀ contents, field.2 = .bytes contents → contents.length < 2^64) :
    (asWire field).Wire (encodeValue field) := by
  obtain ⟨number,value | contents⟩ := field
  · exact ⟨_,_,_,rfl,encodeVarintWord _,tagValue number,encodeVarintWord value⟩
  · have sized := fits contents rfl
    refine ⟨_,_,_,List.append_assoc _ _ _,encodeVarintWord _,?_,_,_,encodeVarintWord _,?_,rfl⟩
    · have joined := Nat.two_pow_add_eq_or_of_lt (by omega : 2 < 2^3) number.toNat
      rw [UInt64.toNat_or,tagValue]
      exact joined.symm
    · rw [UInt64.toNat_ofNat']
      omega

theorem asWireKept (field : UInt32 × WireValue) : (asWire field).kept = some field := by
  obtain ⟨number,value | contents⟩ := field <;> simp [asWire,WireField.kept]

theorem asWireNumber (field : UInt32 × WireValue) : (asWire field).number = field.1.toNat := by
  obtain ⟨number,value | contents⟩ := field <;> rfl

theorem pushAll {fields : Fields} (writable : Writable fields) (before : Fields) :
    (fields.map asWire).foldlM push before = some (before ++ fields) := by
  induction fields generalizing before with
  | nil => simp
  | cons field rest ih =>
    have positive := (writable field List.mem_cons_self).1
    have inRange : (asWire field).InRange := by
      rw [WireField.InRange,asWireNumber]
      exact ⟨Nat.pos_of_ne_zero fun zero => positive (UInt32.toNat_inj.mp zero),field.1.toNat_lt⟩
    rw [List.map_cons,List.foldlM_cons,push,if_pos inRange,asWireKept,Option.bind_eq_bind,Option.bind_some,
      ih (fun other member => writable other (List.mem_cons_of_mem _ member))]
    simp

theorem parseFieldsEncoded {fields : Fields} (writable : Writable fields) :
    parseFields (fields.flatMap encodeValue) = .ok fields := by
  refine ((parseFieldsSpec _).1 fields).mpr ⟨fields.map asWire,fields.map encodeValue,?_,?_,pushAll writable []⟩
  · rw [List.forall₂_map_left_iff,List.forall₂_map_right_iff,List.forall₂_same]
    exact fun field member => encodeValueWire (writable field member).2
  · rw [List.flatMap_def]

/- The reply as a receiver writes it. The two algorithms have defaults and may be left out. -/
def AuthResponse.written (r : AuthResponse) (algorithm : Option SignatureAlgorithm) (hash : Option HashAlgorithm) :
    Fields :=
  [(1,.bytes r.signature),(2,.bytes r.clientAuthCertificate)] ++
    r.intermediateCertificates.map (fun certificate => (3,.bytes certificate)) ++
    algorithm.toList.map (fun algorithm => (4,.varint algorithm.wire)) ++
    r.senderNonce.toList.map (fun nonce => (5,.bytes nonce)) ++
    hash.toList.map (fun hash => (6,.varint hash.wire)) ++ r.crl.toList.map (fun crl => (7,.bytes crl))

def AuthResponse.fields (r : AuthResponse) : Fields := r.written (some r.signatureAlgorithm) (some r.hashAlgorithm)

def AuthResponse.encode (r : AuthResponse) : Bytes :=
  encodeBytesField 2 (r.fields.flatMap encodeValue)

theorem SignatureAlgorithm.fromWireWire (a : SignatureAlgorithm) : fromWire a.wire = .ok a := by
  cases a <;> rfl

theorem HashAlgorithm.fromWireWire (a : HashAlgorithm) : fromWire a.wire = .ok a := by
  cases a <;> rfl

theorem bytesAppend (a b : Fields) (number : UInt32) : bytes (a ++ b) number = (bytes a number).or (bytes b number) :=
  List.findSome?_append

theorem bytesAllAppend (a b : Fields) (number : UInt32) : bytesAll (a ++ b) number = bytesAll a number ++ bytesAll b number :=
  List.filterMap_append

theorem varintAppend (a b : Fields) (number : UInt32) : varint (a ++ b) number = (varint a number).or (varint b number) :=
  List.findSome?_append

theorem bytesTagged (number tag : UInt32) (contents : List Bytes) :
    bytes (contents.map fun c => (tag,.bytes c)) number = if tag = number then contents.head? else none := by
  unfold bytes
  by_cases same : tag = number
  · cases contents <;> simp [bytesField,same]
  · simp [List.findSome?_eq_none_iff,bytesField,same]

theorem bytesAllTagged (number tag : UInt32) (contents : List Bytes) :
    bytesAll (contents.map fun c => (tag,.bytes c)) number = if tag = number then contents else [] := by
  unfold bytesAll
  by_cases same : tag = number
  · simp [List.filterMap_map,Function.comp_def,bytesField,same]
  · simp [List.filterMap_map,Function.comp_def,bytesField,same]

theorem varintTagged (number tag : UInt32) (contents : List Bytes) :
    varint (contents.map fun c => (tag,.bytes c)) number = none := by
  simp [varint]

theorem encodedLength {fields : Fields} {number : UInt32} {contents : Bytes}
    (member : (number,.bytes contents) ∈ fields) : contents.length ≤ (fields.flatMap encodeValue).length := by
  have part : (encodeValue (number,.bytes contents)).length ≤ (fields.flatMap encodeValue).length := by
    rw [List.flatMap_def]
    exact (List.sublist_flatten_of_mem (List.mem_map_of_mem member)).length_le
  refine le_trans ?_ part
  simp [encodeValue,encodeBytesField]
  omega

section Written
variable {r : AuthResponse} {algorithm : Option SignatureAlgorithm} {hash : Option HashAlgorithm}

theorem AuthResponse.writable (fits : ((r.written algorithm hash).flatMap encodeValue).length < 2^64) :
    Writable (r.written algorithm hash) := by
  intro field member
  refine ⟨?_,fun contents same => ?_⟩
  · simp only [written,List.mem_append,List.mem_cons,List.mem_map,List.not_mem_nil,or_false] at member
    rcases member with (((((rfl | rfl) | ⟨_,_,rfl⟩) | ⟨_,_,rfl⟩) | ⟨_,_,rfl⟩) | ⟨_,_,rfl⟩) | ⟨_,_,rfl⟩ <;> simp
  · obtain ⟨number,value⟩ := field
    cases same
    exact (encodedLength member).trans_lt fits

theorem AuthResponse.parsed (fits : ((r.written algorithm hash).flatMap encodeValue).length < 2^64) :
    parseResponse ((r.written algorithm hash).flatMap encodeValue) =
      .ok {r with signatureAlgorithm := algorithm.getD .pkcs1V15, hashAlgorithm := hash.getD .sha1} := by
  have intermediates : bytesAll (r.written algorithm hash) 3 = r.intermediateCertificates := by
    simp only [AuthResponse.written,bytesAllAppend,bytesAllTagged]
    cases algorithm <;> cases hash <;> simp [bytesAll,bytesField]
  have algorithms : (varint (r.written algorithm hash) 4).getD 1 = (algorithm.getD .pkcs1V15).wire := by
    simp only [AuthResponse.written,varintAppend,varintTagged]
    cases algorithm <;> cases hash <;> simp [varint,SignatureAlgorithm.wire]
  have nonce : bytes (r.written algorithm hash) 5 = r.senderNonce := by
    simp only [AuthResponse.written,bytesAppend,bytesTagged]
    cases r.senderNonce <;> cases algorithm <;> cases hash <;> simp [bytes,bytesField]
  have hashes : (varint (r.written algorithm hash) 6).getD 0 = (hash.getD .sha1).wire := by
    simp only [AuthResponse.written,varintAppend,varintTagged]
    cases algorithm <;> cases hash <;> simp [varint,HashAlgorithm.wire]
  have crl : bytes (r.written algorithm hash) 7 = r.crl := by
    simp only [AuthResponse.written,bytesAppend,bytesTagged]
    cases r.crl <;> cases algorithm <;> cases hash <;> simp [bytes,bytesField]
  rw [parseResponse,parseFieldsEncoded (AuthResponse.writable fits),Outcome.okBind,intermediates,algorithms,nonce,
    hashes,crl,SignatureAlgorithm.fromWireWire,HashAlgorithm.fromWireWire]
  rfl

end Written

theorem encodedAlone {number : UInt32} (positive : number ≠ 0) {contents : Bytes} (fits : contents.length < 2^64) :
    parseFields (encodeBytesField number contents) = .ok [(number,.bytes contents)] := by
  have single : encodeBytesField number contents = [(number,.bytes contents)].flatMap encodeValue :=
    (List.append_nil _).symm
  rw [single]
  refine parseFieldsEncoded fun field member => ?_
  cases List.mem_singleton.mp member
  refine ⟨positive,fun other same => ?_⟩
  cases same
  exact fits

def challengeFields (nonce : Vector UInt8 nonceSize) : Fields :=
  [(1,.varint SignatureAlgorithm.pkcs1V15.wire),(2,.bytes nonce.toList),(3,.varint HashAlgorithm.sha256.wire)]

theorem createChallengePayload (nonce : Vector UInt8 nonceSize) :
    (createChallenge nonce).payload = encodeBytesField 1 ((challengeFields nonce).flatMap encodeValue) := by
  simp [createChallenge,challengeFields,encodeValue]

theorem challengeWritable (nonce : Vector UInt8 nonceSize) : Writable (challengeFields nonce) := by
  intro field member
  simp only [challengeFields,List.mem_cons,List.not_mem_nil,or_false] at member
  rcases member with rfl | rfl | rfl
  · simp
  · refine ⟨by simp,fun contents same => ?_⟩
    cases same
    rw [Vector.length_toList]
    decide
  · simp

theorem challengeShort (nonce : Vector UInt8 nonceSize) :
    ((challengeFields nonce).flatMap encodeValue).length < 2^64 := by
  have signature := encodeVarintFieldShort 1 SignatureAlgorithm.pkcs1V15.wire
  have contents := encodeBytesFieldShort 2 nonce.toList
  have hash := encodeVarintFieldShort 3 HashAlgorithm.sha256.wire
  have size : nonce.toList.length = 16 := nonce.length_toList
  simp only [challengeFields,encodeValue,List.flatMap_cons,List.flatMap_nil,List.length_append,List.length_nil]
  omega

theorem AuthResponse.readWritten {r : AuthResponse} {algorithm : Option SignatureAlgorithm}
    {hash : Option HashAlgorithm} (fits : ((r.written algorithm hash).flatMap encodeValue).length < 2^64) :
    parseDeviceAuthMessage (encodeBytesField 2 ((r.written algorithm hash).flatMap encodeValue)) =
      .ok {r with signatureAlgorithm := algorithm.getD .pkcs1V15, hashAlgorithm := hash.getD .sha1} := by
  rw [parseDeviceAuthMessage,encodedAlone (by decide) fits,Outcome.okBind]
  exact AuthResponse.parsed fits

theorem AuthResponse.decoded {r : AuthResponse} (fits : (r.fields.flatMap encodeValue).length < 2^64) :
    parseDeviceAuthMessage r.encode = .ok r :=
  AuthResponse.readWritten fits

def errorFields (code : Option UInt64) : Fields := code.toList.map fun code => (1,.varint code)

theorem errorRead (code : Option UInt64) :
    parseDeviceAuthMessage (encodeBytesField 3 ((errorFields code).flatMap encodeValue)) =
      .err ("receiver rejected authentication challenge with error " ++ toString (code.getD 0)) := by
  have inner : ((errorFields code).flatMap encodeValue).length < 2^64 := by
    cases code with
    | none => decide
    | some code =>
      refine lt_of_le_of_lt ?_ (show 20 < 2^64 by decide)
      simpa [errorFields,encodeValue] using encodeVarintFieldShort 1 code
  rw [parseDeviceAuthMessage,encodedAlone (by decide) inner,Outcome.okBind]
  simp only [bytes,List.findSome?_cons,bytesField,if_true]
  rw [parseFieldsEncoded (by cases code <;> simp [errorFields,Writable]),Outcome.okBind]
  cases code <;> simp [errorFields,varint]

theorem authMessagesRoundTrip :
    (∀ nonce, ∃ challenge, parseFields (createChallenge nonce).payload = .ok [(1,.bytes challenge)] ∧
      parseFields challenge = .ok [(1,.varint 1),(2,.bytes nonce.toList),(3,.varint 1)]) ∧
    (∀ r : AuthResponse, (r.fields.flatMap encodeValue).length < 2^64 → parseDeviceAuthMessage r.encode = .ok r) ∧
    (∀ (r : AuthResponse) (algorithm : Option SignatureAlgorithm) (hash : Option HashAlgorithm),
      ((r.written algorithm hash).flatMap encodeValue).length < 2^64 →
      parseDeviceAuthMessage (encodeBytesField 2 ((r.written algorithm hash).flatMap encodeValue)) =
        .ok {r with signatureAlgorithm := algorithm.getD .pkcs1V15, hashAlgorithm := hash.getD .sha1}) ∧
    (∀ code : UInt64, parseDeviceAuthMessage (encodeBytesField 3 (encodeVarintField 1 code)) =
      .err ("receiver rejected authentication challenge with error " ++ toString code)) ∧
    parseDeviceAuthMessage (encodeBytesField 3 []) =
      .err ("receiver rejected authentication challenge with error " ++ toString 0) := by
  refine ⟨fun nonce => ⟨(challengeFields nonce).flatMap encodeValue,?_,parseFieldsEncoded (challengeWritable nonce)⟩,
    fun r fits => AuthResponse.decoded fits,fun r algorithm hash fits => AuthResponse.readWritten fits,fun code => ?_,
    errorRead none⟩
  · rw [createChallengePayload]
    exact encodedAlone (by decide) (challengeShort nonce)
  · have read := errorRead (some code)
    rw [show (errorFields (some code)).flatMap encodeValue = encodeVarintField 1 code from List.append_nil _] at read
    exact read

def exampleResponse : AuthResponse := ⟨[9,9],[1],[[2],[3]],.pss,some (List.replicate 16 7),.sha256,none⟩

theorem exampleResponseRead : parseDeviceAuthMessage exampleResponse.encode = .ok exampleResponse ∧
    parseDeviceAuthMessage (encodeBytesField 2 ((exampleResponse.written none none).flatMap encodeValue)) =
      .ok {exampleResponse with signatureAlgorithm := .pkcs1V15, hashAlgorithm := .sha1} :=
  ⟨authMessagesRoundTrip.2.1 exampleResponse (by decide),
    authMessagesRoundTrip.2.2.1 exampleResponse none none (by decide)⟩

end Auth
end Chromiacast
