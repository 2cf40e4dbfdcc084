import Chromiacast.Walkers

/-! Revocation lists of device credentials. The certificate parser and the digest are
those of the libraries and stay parameters; a chain is ordered leaf first, so the
issuer of a certificate stands behind it. -/
namespace Chromiacast
open Basis

namespace Auth

structure Certificate where
  publicKeyRaw : Bytes
  rawSerial : Bytes
  notAfter : Int
  deriving DecidableEq, Repr

abbrev SerialRanges := AList fun _ : Bytes => List (UInt64 × UInt64)

def Covers (ranges : SerialRanges) (hash : Bytes) (serial : Nat) : Prop :=
  ∃ listed, ranges.lookup hash = some listed ∧
    ∃ range ∈ listed, range.1.toNat ≤ serial ∧ serial ≤ range.2.toNat

structure Revocations where
  notBefore : UInt64
  notAfter : UInt64
  revokedPublicKeys : Finset Bytes
  revokedSerialRanges : SerialRanges

def serialNumberU64 (cert : Certificate) : Option UInt64 :=
  let bytes := cert.rawSerial
  if bytes = [] ∨ bytes.length > 8 ∨ bytes.head?.any (fun first => first &&& 0x80 ≠ 0) then none
  else some (bytes.foldl (fun value byte => value <<< 8 ||| byte.toUInt64) 0)

section Check
variable (x509 : Bytes → Except String (Bytes × Certificate)) (sha256 : Bytes → Bytes)

def parseCertificate (der : Bytes) (description : String) : Outcome String Certificate :=
  match x509 der with
  | .error e => .err ("invalid " ++ description ++ ": " ++ e)
  | .ok (remaining,cert) =>
    if remaining ≠ [] then .err ("trailing data after " ++ description) else .ok cert

namespace Revocations

def checkSerial (r : Revocations) (chain : List Bytes) (position : Nat) (issuerHash : Bytes) :
    Outcome String Unit :=
  if position > 0 then
    match r.revokedSerialRanges.lookup issuerHash with
    | none => .ok ()
    | some ranges => do
      let der ← index chain (position-1)
      let subject ← parseCertificate x509 der "credential chain"
      match serialNumberU64 subject with
      | none => .ok ()
      | some serial =>
        if ranges.any (fun range => range.1 ≤ serial && serial ≤ range.2) then
          .err "receiver credential certificate serial number is revoked"
        else .ok ()
  else .ok ()

def checkLinks (r : Revocations) (chain : List Bytes) : Nat → Outcome String Unit
  | 0 => .ok ()
  | position+1 => do
    let der ← index chain position
    let cert ← parseCertificate x509 der "credential chain"
    let issuerHash := sha256 cert.publicKeyRaw
    if issuerHash ∈ r.revokedPublicKeys then .err "receiver credential chain contains a revoked key"
    else
      let _ ← r.checkSerial x509 chain position issuerHash
      checkLinks r chain position

def checkChainAt (r : Revocations) (chain : List Bytes) (now : UInt64) : Outcome String Unit :=
  if now < r.notBefore ∨ now > r.notAfter then .err "receiver supplied an expired revocation list"
  else r.checkLinks x509 sha256 chain chain.length

def Lists (r : Revocations) (hash : Bytes) (serial : Nat) : Prop := Covers r.revokedSerialRanges hash serial

def CertificateAt (chain : List Bytes) (i : Nat) (cert : Certificate) : Prop :=
  ∃ der, chain[i]? = some der ∧ parseCertificate x509 der "credential chain" = .ok cert

structure Clear (serialOf : Certificate → Option Nat) (r : Revocations) (chain : List Bytes) (now : UInt64) :
    Prop where
  window : r.notBefore ≤ now ∧ now ≤ r.notAfter
  parsed : ∀ i < chain.length, ∃ cert, CertificateAt x509 chain i cert
  keys : ∀ i cert, CertificateAt x509 chain i cert → sha256 cert.publicKeyRaw ∉ r.revokedPublicKeys
  serials : ∀ i subject issuer n, CertificateAt x509 chain i subject → CertificateAt x509 chain (i+1) issuer →
    serialOf subject = some n → ¬ r.Lists (sha256 issuer.publicKeyRaw) n

variable {x509 sha256}

theorem certificateUnique {chain : List Bytes} {i : Nat} {a b : Certificate}
    (first : CertificateAt x509 chain i a) (second : CertificateAt x509 chain i b) : a = b := by
  obtain ⟨der,found,parsed⟩ := first
  obtain ⟨der',found',parsed'⟩ := second
  rw [found] at found'
  cases Option.some.inj found'
  rw [parsed] at parsed'
  exact Outcome.ok.inj parsed'

theorem parseSpec {chain : List Bytes} {i : Nat} (inside : i < chain.length) :
    (index chain i >>= fun der => parseCertificate x509 der "credential chain").Recognises
      (CertificateAt x509 chain i) := by
  rw [indexIn inside,Outcome.okBind]
  refine ⟨fun cert => ⟨fun parsed => ⟨_,List.getElem?_eq_getElem inside,parsed⟩,?_⟩,?_⟩
  · rintro ⟨der,found,parsed⟩
    rw [List.getElem?_eq_getElem inside] at found
    cases Option.some.inj found
    exact parsed
  · unfold parseCertificate
    split
    · simp
    · split <;> simp

def serialRead (cert : Certificate) : Option Nat := (serialNumberU64 cert).map UInt64.toNat

theorem listsIff {r : Revocations} {hash : Bytes} {ranges : List (UInt64 × UInt64)} {serial : UInt64}
    (found : r.revokedSerialRanges.lookup hash = some ranges) :
    ranges.any (fun range => range.1 ≤ serial && serial ≤ range.2) = true ↔ r.Lists hash serial.toNat := by
  simp [Lists,Covers,found,UInt64.le_iff_toNat_le]

/- One link of the chain: nothing is asked of the serial number where no range is listed. -/
def SerialClear (x509 : Bytes → Except String (Bytes × Certificate)) (r : Revocations) (chain : List Bytes)
    (position : Nat) (hash : Bytes) : Prop :=
  0 < position → ∀ ranges, r.revokedSerialRanges.lookup hash = some ranges →
    ∃ subject, CertificateAt x509 chain (position-1) subject ∧
      ∀ n, serialRead subject = some n → ¬ r.Lists hash n

theorem checkSerialSpec (r : Revocations) {chain : List Bytes} {position : Nat}
    (inside : position < chain.length) (hash : Bytes) :
    (r.checkSerial x509 chain position hash).Recognises fun _ => SerialClear x509 r chain position hash := by
  unfold checkSerial SerialClear
  by_cases first : position > 0
  · rw [if_pos first]
    cases found : r.revokedSerialRanges.lookup hash with
    | none => exact (Outcome.Recognises.ok ()).congr fun _ => by simp
    | some ranges =>
      simp only
      rw [← Outcome.bindAssoc]
      refine ((parseSpec (i := position-1) (by omega)).bind
        (S := fun subject _ => ∀ n, serialRead subject = some n → ¬ r.Lists hash n) ?_).congr fun _ => ?_
      · intro subject _
        cases read : serialNumberU64 subject with
        | none => exact (Outcome.Recognises.ok ()).congr fun _ => by simp [serialRead,read]
        | some serial =>
          refine .reject _ (fun listed _ clear => ?_) fun unlisted => ?_
          · exact clear serial.toNat (by simp [serialRead,read]) ((listsIff found).mp listed)
          · refine (Outcome.Recognises.ok ()).congr fun _ => ?_
            simp [serialRead,read,← listsIff found,unlisted]
      · simp [first]
  · rw [if_neg first]
    exact (Outcome.Recognises.ok ()).congr fun _ => by simp [first]

def LinkClear (x509 : Bytes → Except String (Bytes × Certificate)) (sha256 : Bytes → Bytes) (r : Revocations)
    (chain : List Bytes) (i : Nat) : Prop :=
  ∃ cert, CertificateAt x509 chain i cert ∧ sha256 cert.publicKeyRaw ∉ r.revokedPublicKeys ∧
    SerialClear x509 r chain i (sha256 cert.publicKeyRaw)

theorem checkLinksSpec (r : Revocations) {chain : List Bytes} (count : Nat) (inside : count ≤ chain.length) :
    (r.checkLinks x509 sha256 chain count).Recognises fun _ => ∀ i < count, LinkClear x509 sha256 r chain i := by
  induction count with
  | zero => exact (Outcome.Recognises.ok ()).congr fun _ => by simp
  | succ position ih =>
    unfold checkLinks
    rw [← Outcome.bindAssoc]
    refine ((parseSpec inside).bind (S := fun cert _ => sha256 cert.publicKeyRaw ∉ r.revokedPublicKeys ∧
      SerialClear x509 r chain position (sha256 cert.publicKeyRaw) ∧
      ∀ i < position, LinkClear x509 sha256 r chain i) ?_).congr fun _ => ?_
    · intro cert _
      refine .reject _ (fun revoked _ clear => clear.1 revoked) fun kept => ?_
      refine ((checkSerialSpec r inside _).bind fun _ _ => ih (Nat.le_of_succ_le inside)).congr fun _ => ?_
      simp [kept]
    · constructor
      · rintro ⟨cert,at',kept,clear,below⟩ i less
        rcases Nat.lt_succ_iff_lt_or_eq.mp less with less | rfl
        · exact below i less
        · exact ⟨cert,at',kept,clear⟩
      · intro each
        obtain ⟨cert,at',kept,clear⟩ := each position (Nat.lt_succ_self _)
        exact ⟨cert,at',kept,clear,fun i less => each i (Nat.lt_succ_of_lt less)⟩

theorem linksClearIff (r : Revocations) (chain : List Bytes) {now : UInt64}
    (window : r.notBefore ≤ now ∧ now ≤ r.notAfter) :
    (∀ i < chain.length, LinkClear x509 sha256 r chain i) ↔ Clear x509 sha256 serialRead r chain now := by
  constructor
  · intro each
    have inside {i : Nat} {cert : Certificate} (at' : CertificateAt x509 chain i cert) : i < chain.length := by
      obtain ⟨der,found,_⟩ := at'
      exact (List.getElem?_eq_some_iff.mp found).1
    refine ⟨window,fun i less => ?_,fun i cert at' => ?_,fun i subject issuer n at' above read => ?_⟩
    · obtain ⟨cert,at',_⟩ := each i less
      exact ⟨cert,at'⟩
    · obtain ⟨cert',found,kept,_⟩ := each i (inside at')
      cases certificateUnique at' found
      exact kept
    · obtain ⟨issuer',found,_,clear⟩ := each (i+1) (inside above)
      cases certificateUnique above found
      rintro ⟨ranges,listed,range⟩
      obtain ⟨subject',below,unlisted⟩ := clear (Nat.succ_pos i) ranges listed
      cases certificateUnique at' below
      exact unlisted n read ⟨ranges,listed,range⟩
  · intro clear i less
    obtain ⟨cert,at'⟩ := clear.parsed i less
    refine ⟨cert,at',clear.keys i cert at',fun first ranges listed => ?_⟩
    obtain ⟨subject,below⟩ := clear.parsed (i-1) (by omega)
    refine ⟨subject,below,fun n read => clear.serials (i-1) subject cert n below ?_ read⟩
    rw [Nat.sub_add_cancel first]
    exact at'

theorem checkChainSpec (r : Revocations) (chain : List Bytes) (now : UInt64) :
    (r.checkChainAt x509 sha256 chain now).Recognises fun _ => Clear x509 sha256 serialRead r chain now := by
  unfold checkChainAt
  refine .reject _ (fun outside _ clear => ?_) fun window => ?_
  · rcases outside with early | late
    · exact absurd clear.window.1 (UInt64.not_le.mpr early)
    · exact absurd clear.window.2 (UInt64.not_le.mpr late)
  · rw [not_or,UInt64.not_lt,gt_iff_lt,UInt64.not_lt] at window
    exact (checkLinksSpec r chain.length (Nat.le_refl _)).congr fun _ => linksClearIff r chain window

def unsignedSerial (cert : Certificate) : Option Nat :=
  if readBE cert.rawSerial < 2^64 then some (readBE cert.rawSerial) else none

theorem shiftedOctet {value : UInt64} {byte : UInt8} (small : value.toNat < 2^56) :
    (value <<< 8 ||| byte.toUInt64).toNat = value.toNat*256+byte.toNat := by
  have octet : byte.toNat < 2^8 := byte.toNat_lt
  have shifted : value.toNat <<< 8 < 2^64 := by
    rw [Nat.shiftLeft_eq]
    omega
  rw [UInt64.toNat_or,UInt64.toNat_shiftLeft,UInt8.toNat_toUInt64]
  simp only [UInt64.reduceToNat,Nat.reduceMod]
  rw [Nat.mod_eq_of_lt shifted,← Nat.shiftLeft_add_eq_or_of_lt octet,Nat.shiftLeft_eq]

theorem octetsFolded (octets : Bytes) (short : octets.length ≤ 8) :
    (octets.foldl (fun (value : UInt64) (byte : UInt8) => value <<< 8 ||| byte.toUInt64) 0).toNat =
      readBE octets := by
  induction octets using List.reverseRecOn with
  | nil => rfl
  | append_singleton octets last ih =>
    rw [List.length_append,List.length_singleton] at short
    have folded := ih (by omega)
    have bound : readBE octets < 2^56 := by
      calc readBE octets < 256^octets.length := readBeBound octets
        _ ≤ 256^7 := Nat.pow_le_pow_right (by decide) (by omega)
        _ = 2^56 := by decide
    rw [List.foldl_append,List.foldl_cons,List.foldl_nil,shiftedOctet (by rw [folded]; exact bound),folded,readBeSnoc]

theorem serialReadIff {cert : Certificate} {n : Nat} :
    serialRead cert = some n ↔ n = readBE cert.rawSerial ∧
      ∃ first rest, cert.rawSerial = first::rest ∧ rest.length < 8 ∧ first &&& 0x80 = 0 := by
  unfold serialRead serialNumberU64
  cases octets : cert.rawSerial with
  | nil => simp
  | cons first rest =>
    by_cases readable : rest.length < 8 ∧ first &&& 0x80 = 0
    · have plain : ¬ (first::rest = [] ∨ (first::rest).length > 8 ∨
          (first::rest).head?.any (fun first => first &&& 0x80 ≠ 0)) := by
        simp [readable.2]
        omega
      simp only [if_neg plain,Option.map_some,Option.some.injEq,
        octetsFolded (first::rest) (by simpa using readable.1)]
      simp [readable,eq_comm]
    · have unread : first::rest = [] ∨ (first::rest).length > 8 ∨
          (first::rest).head?.any (fun first => first &&& 0x80 ≠ 0) := by
        by_cases short : rest.length < 8
        · exact .inr (.inr (by simpa using fun clear => readable ⟨short,clear⟩))
        · exact .inr (.inl (by simpa using short))
      simp only [if_pos unread,Option.map_none]
      simpa using fun _ short => fun clear => readable ⟨short,clear⟩

theorem serialReadUnsigned {cert : Certificate} {n : Nat} (read : serialRead cert = some n) :
    unsignedSerial cert = some n := by
  obtain ⟨rfl,first,rest,octets,short,_⟩ := serialReadIff.mp read
  refine if_pos ?_
  calc readBE cert.rawSerial < 256^cert.rawSerial.length := readBeBound _
    _ ≤ 256^8 := Nat.pow_le_pow_right (by decide) (by rw [octets,List.length_cons]; omega)
    _ = 2^64 := by decide

theorem listedUnsigned {r : Revocations} {hash : Bytes} {cert : Certificate}
    (listed : r.Lists hash (readBE cert.rawSerial)) : unsignedSerial cert = some (readBE cert.rawSerial) := by
  obtain ⟨_,_,range,_,_,below⟩ := listed
  exact if_pos (Nat.lt_of_le_of_lt below range.2.toNat_lt)

/- The check errs on a chain exactly if it finds nothing and a listed serial number has more than eight
octets or a sign bit. -/
theorem revocationExact (r : Revocations) (chain : List Bytes) (now : UInt64) :
    (r.checkChainAt x509 sha256 chain now = .ok () ↔ Clear x509 sha256 unsignedSerial r chain now) ↔
    (Clear x509 sha256 serialRead r chain now →
      ∀ i subject issuer, CertificateAt x509 chain i subject → CertificateAt x509 chain (i+1) issuer →
        r.Lists (sha256 issuer.publicKeyRaw) (readBE subject.rawSerial) →
        ∃ first rest, subject.rawSerial = first::rest ∧ rest.length < 8 ∧ first &&& 0x80 = 0) := by
  rw [(checkChainSpec r chain now).1 ()]
  constructor
  · intro exact' clear i subject issuer at' above listed
    exact absurd listed ((exact'.mp clear).serials i subject issuer _ at' above (listedUnsigned listed))
  · intro readable
    constructor
    · intro clear
      refine ⟨clear.window,clear.parsed,clear.keys,fun i subject issuer n at' above read listed => ?_⟩
      unfold unsignedSerial at read
      split at read
      · cases Option.some.inj read
        exact clear.serials i subject issuer _ at' above
          (serialReadIff.mpr ⟨rfl,readable clear i subject issuer at' above listed⟩) listed
      · exact absurd read (by simp)
    · intro clear
      exact ⟨clear.window,clear.parsed,clear.keys,fun i subject issuer n at' above read =>
        clear.serials i subject issuer n at' above (serialReadUnsigned read)⟩

end Revocations

end Check

namespace Revocations

def twoCertificates (serial : Bytes) : Bytes → Except String (Bytes × Certificate)
  | [0] => .ok ([],⟨[1],serial,0⟩)
  | [1] => .ok ([],⟨[2],[1],0⟩)
  | _ => .error "not a certificate"

def oneSerial (serial : UInt64) : Revocations :=
  ⟨0,10,∅,(∅ : SerialRanges).insert [2] [(serial,serial)]⟩

theorem twoCertificatesSerial {serial der : Bytes} {cert : Certificate}
    (parsed : parseCertificate (twoCertificates serial) der "credential chain" = .ok cert) :
    cert.rawSerial = serial ∨ cert.rawSerial = [1] := by
  unfold parseCertificate twoCertificates at parsed
  split at parsed
  · simp at parsed
  · rename_i found
    split at found
    · obtain ⟨rfl,rfl⟩ := Prod.mk.inj (Except.ok.inj found)
      exact .inl (by rw [← Outcome.ok.inj parsed])
    · obtain ⟨rfl,rfl⟩ := Prod.mk.inj (Except.ok.inj found)
      exact .inr (by rw [← Outcome.ok.inj parsed])
    · simp at found

theorem listedSerialRefused :
    (oneSerial 7).checkChainAt (twoCertificates [7]) id [[0],[1]] 5 =
      .err "receiver credential certificate serial number is revoked" ∧
    ¬ Clear (twoCertificates [7]) id unsignedSerial (oneSerial 7) [[0],[1]] 5 := by
  have refused : (oneSerial 7).checkChainAt (twoCertificates [7]) id [[0],[1]] 5 =
      .err "receiver credential certificate serial number is revoked" := by decide
  refine ⟨refused,fun clear => ?_⟩
  have accepted := ((revocationExact (oneSerial 7) [[0],[1]] 5).mpr fun _ i subject issuer at' _ _ => ?_).mpr clear
  · rw [refused] at accepted
    simp at accepted
  · obtain ⟨der,_,parsed⟩ := at'
    rcases twoCertificatesSerial parsed with serial | serial
    · exact ⟨7,[],serial,by decide,by decide⟩
    · exact ⟨1,[],serial,by decide,by decide⟩

/- A serial number of 2^63 has a leading zero octet and is passed over. -/
theorem largeSerialPasses :
    (oneSerial 0x8000000000000000).checkChainAt (twoCertificates [0,0x80,0,0,0,0,0,0,0]) id [[0],[1]] 5 = .ok () ∧
    ¬ Clear (twoCertificates [0,0x80,0,0,0,0,0,0,0]) id unsignedSerial (oneSerial 0x8000000000000000)
      [[0],[1]] 5 := by
  refine ⟨by decide,fun clear => ?_⟩
  refine clear.serials 0 ⟨[1],[0,0x80,0,0,0,0,0,0,0],0⟩ ⟨[2],[1],0⟩ 0x8000000000000000 ⟨[0],rfl,rfl⟩
    ⟨[1],rfl,rfl⟩ (by decide) ?_
  exact ⟨[(0x8000000000000000,0x8000000000000000)],by decide,_,List.mem_singleton_self _,by decide,by decide⟩

end Revocations

section Crl
variable (x509 : Bytes → Except String (Bytes × Certificate))
variable (verifyChain : Bytes → Outcome String Bytes) (verify : Bytes → Bytes → Bytes → Bool)

def bytesField (number : UInt32) : UInt32 × WireValue → Option Bytes
  | (field,.bytes contents) => if field = number then some contents else none
  | (_,.varint _) => none

def bytes (fields : Fields) (number : UInt32) : Option Bytes := fields.findSome? (bytesField number)

def bytesAll (fields : Fields) (number : UInt32) : List Bytes := fields.filterMap (bytesField number)

def varint (fields : Fields) (number : UInt32) : Option UInt64 :=
  fields.findSome? fun
    | (field,.varint value) => if field = number then some value else none
    | (_,.bytes _) => none

def require (value : Option Bytes) (error : String) : Outcome String Bytes :=
  match value with
  | some contents => .ok contents
  | none => .err error

def addRange (ranges : SerialRanges) (rangeData : Bytes) : Outcome String SerialRanges := do
  let range ← parseFields rangeData
  let issuer ← require (bytes range 1) "revoked serial range has no issuer hash"
  let first := (varint range 2).getD 0
  let last := (varint range 3).getD 0
  if last < first then .err "revocation list contains an inverted serial range"
  else .ok (ranges.insert issuer ((ranges.lookup issuer).getD [] ++ [(first,last)]))

/- The signer's chain ends in the built-in root; its leaf key is that of the signer. -/
def parseAndVerifyOneCrl (data : Bytes) : Outcome String Revocations := do
  let fields ← parseFields data
  let tbs ← require (bytes fields 1) "revocation list has no signed body"
  let signer ← require (bytes fields 2) "revocation list has no signer certificate"
  let crlSignature ← require (bytes fields 3) "revocation list has no signature"
  let leafPublicKey ← verifyChain signer
  if verify leafPublicKey tbs crlSignature = false then .err "invalid revocation-list signature"
  else
    let signerX509 ← parseCertificate x509 signer "revocation-list signer"
    let tbsFields ← parseFields tbs
    if (varint tbsFields 1).getD 0 ≠ 0 then .err "unsupported revocation-list version"
    else if signerX509.notAfter < 0 then .err "revocation-list signer has an invalid expiration time"
    else
      let ranges ← (bytesAll tbsFields 5).foldlM addRange ∅
      .ok ⟨(varint tbsFields 2).getD 0,
        min ((varint tbsFields 3).getD 0) (UInt64.ofNat signerX509.notAfter.toNat),
        (bytesAll tbsFields 4).toFinset,ranges⟩

def parseAndVerifyCrls (verifyChain : Nat → Bytes → Outcome String Bytes) (lastError : String) (k : Nat) :
    List Bytes → Outcome String Revocations
  | [] => .err lastError
  | crlData::rest =>
    match parseAndVerifyOneCrl x509 (verifyChain k) verify crlData with
    | .ok crl => .ok crl
    | .err error => parseAndVerifyCrls verifyChain error (k+1) rest
    | .panic => .panic

def parseAndVerifyCrl (verifyChain : Nat → Bytes → Outcome String Bytes) (data : Bytes) : Outcome String Revocations := do
  let bundle ← parseFields data
  parseAndVerifyCrls x509 verify verifyChain "revocation bundle contained no supported CRL" 0 (bytesAll bundle 1)

end Crl

def Names (rangeData hash : Bytes) (serial : Nat) : Prop :=
  ∃ range, parseFields rangeData = .ok range ∧ bytes range 1 = some hash ∧
    ((varint range 2).getD 0).toNat ≤ serial ∧ serial ≤ ((varint range 3).getD 0).toNat

section Taken
variable {x509 : Bytes → Except String (Bytes × Certificate)} {verify : Bytes → Bytes → Bytes → Bool} {r : Revocations}

end Taken

end Auth

end Chromiacast
