import Chromiacast.DeviceAuth

/-! The check of a receiver's reply: the chain of its credential, the binding of the signature to
the nonce and to the TLS certificate of this connection, and the revocation list it may carry.
The contents of the built-in root certificates are parameters like the libraries. -/
namespace Chromiacast
open Basis

namespace Auth

/- What more is read of a certificate: the size of its key and whether its usage allows
signatures, if the parser can tell, and of each extension the policies it lists, if it does. -/
structure DeviceCertificate extends Certificate where
  notBefore : Int
  subjectPublicKey : Bytes
  keySize : Except String Nat
  digitalSignature : Except String (Option Bool)
  extensions : List (Option (List String))

inductive VerificationAlgorithm where
  | rsaPkcs1Sha1Legacy
  | rsaPkcs1Sha256
  | rsaPssSha256
  deriving DecidableEq, Repr

structure Libraries (Anchor : Type) where
  x509 : Bytes → Except String (Bytes × DeviceCertificate)
  sha256 : Bytes → Bytes
  endEntityCert : Bytes → Except String Unit
  anchorFromTrustedCert : Bytes → Except String Anchor
  verifyForUsage : Bytes → List Anchor → List Bytes → Nat → Except String (List Bytes × Anchor)
  verify : VerificationAlgorithm → Bytes → Bytes → Bytes → Bool
  castRoot : Bytes
  eurekaRoot : Bytes
  castCrlRoot : Bytes

/- The readings of the clock in one check, in their order, one for each list of a bundle. -/
structure Clock where
  tls : Option Nat
  chain : Option Nat
  crl : Nat → Option Nat
  check : Option Nat

structure VerifiedCredential where
  leafPublicKey : Bytes
  certificates : List Bytes
  audioOnly : Bool
  deriving DecidableEq, Repr

structure DeviceIdentity where
  certificateSha256 : Bytes
  audioOnly : Bool
  revocationChecked : Bool
  deriving DecidableEq, Repr

def failing {α : Type} (text : String) : Except String α → Outcome String α
  | .ok value => .ok value
  | .error e => .err (text ++ e)

def unixTimeSeconds : Option Nat → Outcome String Int
  | none => .err "system clock predates the Unix epoch"
  | some seconds => if seconds ≥ 2^63 then .err "system clock is out of range" else .ok seconds

def unixTimeUnsigned (reading : Option Nat) : Outcome String Nat := do
  let seconds ← unixTimeSeconds reading
  if seconds < 0 then .err "system clock predates the Unix epoch" else .ok seconds.toNat

def verifySenderNonce (received : Option Bytes) (expected : Bytes) : Outcome String Unit :=
  if received ≠ some expected then .err "receiver returned a different sender nonce" else .ok ()

def authSignatureInput (nonce tlsPeerCertificate : Bytes) : Bytes := nonce ++ tlsPeerCertificate

def validateSigningKey (cert : DeviceCertificate) (description : String) : Outcome String Unit := do
  let size ← failing ("invalid " ++ description ++ " public key: ") cert.keySize
  if size < 2048 then .err (description ++ " RSA public key is smaller than 2048 bits")
  else
    let usage ← failing ("invalid " ++ description ++ " key usage: ") cert.digitalSignature
    if usage = some false then .err (description ++ " certificate cannot sign authentication data") else .ok ()

def hasAudioOnlyPolicy (cert : DeviceCertificate) : Bool :=
  cert.extensions.any fun policies => policies.any fun ids => ids.any (· = audioOnlyPolicyOid)

section
variable {Anchor : Type} [DecidableEq Anchor] (lib : Libraries Anchor)

def parseDeviceCertificate (der : Bytes) (description : String) : Outcome String DeviceCertificate :=
  match lib.x509 der with
  | .error e => .err ("invalid " ++ description ++ ": " ++ e)
  | .ok (remaining,cert) =>
    if remaining ≠ [] then .err ("trailing data after " ++ description) else .ok cert

def Libraries.certificates (der : Bytes) : Except String (Bytes × Certificate) :=
  (lib.x509 der).map fun parsed => (parsed.1,parsed.2.toCertificate)

def verifyTlsCertificateLifetimeAt (der : Bytes) (now : Int) : Outcome String Unit := do
  let cert ← parseDeviceCertificate lib der "TLS peer certificate"
  if now < cert.notBefore then .err "TLS peer certificate is not valid yet"
  else if now > cert.notAfter then .err "TLS peer certificate has expired"
  else if cert.notAfter-now < 0 then .err "invalid TLS peer certificate lifetime"
  else if (cert.notAfter-now).toNat > maxTlsCertificateLifetime then
    .err "TLS peer certificate remains valid for longer than four days"
  else .ok ()

def verifyTlsCertificateLifetime (reading : Option Nat) (der : Bytes) : Outcome String Unit := do
  let now ← unixTimeSeconds reading
  verifyTlsCertificateLifetimeAt lib der now

def trustedRootDer (verifiedAnchor : Anchor) (roots : List Anchor) (rootDer : List Bytes) : Outcome String Bytes :=
  match (roots.findIdx? (· = verifiedAnchor)).bind (rootDer[·]?) with
  | some der => .ok der
  | none => .err "verified path used an unknown trust anchor"

def audioOnlyOf (description : String) (certificates : List Bytes) : Outcome String Bool :=
  certificates.foldlM (fun restricted der => do
    let cert ← parseDeviceCertificate lib der description
    .ok (restricted || hasAudioOnlyPolicy cert)) false

def verifyChain (reading : Option Nat) (leaf : Bytes) (intermediates rootDer : List Bytes) (description : String) :
    Outcome String VerifiedCredential := do
  let _ ← failing ("invalid " ++ description ++ " certificate: ") (lib.endEntityCert leaf)
  let roots ← rootDer.mapM fun der => failing "invalid built-in trust anchor: " (lib.anchorFromTrustedCert der)
  let now ← unixTimeUnsigned reading
  let path ← failing ("untrusted " ++ description ++ " certificate chain: ")
    (lib.verifyForUsage leaf roots intermediates now)
  let leafX509 ← parseDeviceCertificate lib leaf description
  let _ ← validateSigningKey leafX509 description
  let trustedRoot ← trustedRootDer path.2 roots rootDer
  let certificates := leaf::path.1 ++ [trustedRoot]
  let audioOnly ← audioOnlyOf lib description certificates
  .ok ⟨leafX509.subjectPublicKey,certificates,audioOnly⟩

def verifyDeviceCredentialChain (reading : Option Nat) (leaf : Bytes) (intermediates : List Bytes) :
    Outcome String VerifiedCredential :=
  verifyChain lib reading leaf intermediates [lib.castRoot,lib.eurekaRoot] "device credential"

def authAlgorithm : SignatureAlgorithm → HashAlgorithm → Outcome String VerificationAlgorithm
  | .pkcs1V15,.sha1 => .ok .rsaPkcs1Sha1Legacy
  | .pkcs1V15,.sha256 => .ok .rsaPkcs1Sha256
  | .pss,.sha256 => .ok .rsaPssSha256
  | .pss,.sha1 => .err "RSA-PSS with SHA-1 is unsupported"

def verifyAuthSignature (response : AuthResponse) (publicKey signatureInput : Bytes) : Outcome String Unit := do
  let algorithm ← authAlgorithm response.signatureAlgorithm response.hashAlgorithm
  if lib.verify algorithm publicKey signatureInput response.signature then .ok ()
  else .err "device credential did not sign the TLS certificate and nonce"

/- The signer of a revocation list has its own root and no intermediates. -/
def crlSigner (reading : Option Nat) (signer : Bytes) : Outcome String Bytes := do
  let verified ← verifyChain lib reading signer [] [lib.castCrlRoot] "revocation-list signer"
  .ok verified.leafPublicKey

def parseAndVerifyBundle (readings : Nat → Option Nat) (crl : Bytes) : Outcome String Revocations :=
  parseAndVerifyCrl lib.certificates (lib.verify .rsaPkcs1Sha256) (fun k => crlSigner lib (readings k)) crl

def checkChain (revocations : Revocations) (reading : Option Nat) (chain : List Bytes) : Outcome String Unit := do
  let now ← unixTimeUnsigned reading
  revocations.checkChainAt lib.certificates lib.sha256 chain (UInt64.ofNat now)

/- An empty list is taken for none. -/
def checkRevocation (clock : Clock) (crl : Option Bytes) (chain : List Bytes) : Outcome String Bool :=
  match crl with
  | none => .ok false
  | some data =>
    if data = [] then .ok false
    else do
      let revocations ← parseAndVerifyBundle lib clock.crl data
      let _ ← checkChain lib revocations clock.check chain
      .ok true

def verifyChallengeReply (clock : Clock) (payload : Bytes) (nonce : Vector UInt8 nonceSize)
    (tlsPeerCertificate : Bytes) : Outcome String DeviceIdentity := do
  let _ ← verifyTlsCertificateLifetime lib clock.tls tlsPeerCertificate
  let response ← parseDeviceAuthMessage payload
  let _ ← verifySenderNonce response.senderNonce nonce.toList
  let verified ← verifyDeviceCredentialChain lib clock.chain response.clientAuthCertificate
    response.intermediateCertificates
  let _ ← verifyAuthSignature lib response verified.leafPublicKey (authSignatureInput nonce.toList tlsPeerCertificate)
  let revocationChecked ← checkRevocation lib clock response.crl verified.certificates
  .ok ⟨lib.sha256 response.clientAuthCertificate,verified.audioOnly,revocationChecked⟩

end

section
variable {Anchor : Type} {lib : Libraries Anchor}

theorem trustedRootGiven [DecidableEq Anchor] {anchor : Anchor} {roots : List Anchor} {rootDer : List Bytes} {der : Bytes}
    (found : trustedRootDer anchor roots rootDer = .ok der) : der ∈ rootDer := by
  unfold trustedRootDer at found
  split at found
  · rename_i other here
    cases Outcome.ok.inj found
    obtain ⟨index,_,at'⟩ := Option.bind_eq_some_iff.mp here
    exact List.mem_of_getElem? at'
  · simp at found

theorem failingOk {α : Type} {text : String} {result : Except String α} {value : α}
    (passed : failing text result = .ok value) : result = .ok value := by
  cases result with
  | error e => simp [failing] at passed
  | ok other => exact congrArg Except.ok (Outcome.ok.inj passed)

theorem audioOnlyFolded {description : String} {certificates : List Bytes} {before restricted : Bool}
    (folded : certificates.foldlM (fun restricted der => do
      let cert ← parseDeviceCertificate lib der description
      .ok (restricted || hasAudioOnlyPolicy cert)) before = .ok restricted) :
    (∀ der ∈ certificates, ∃ cert, parseDeviceCertificate lib der description = .ok cert) ∧
    (restricted = true ↔ before = true ∨ ∃ der ∈ certificates, ∃ cert,
      parseDeviceCertificate lib der description = .ok cert ∧ hasAudioOnlyPolicy cert) := by
  induction certificates generalizing before with
  | nil =>
    cases Outcome.ok.inj folded
    simp
  | cons der rest ih =>
    rw [List.foldlM_cons,Outcome.bindAssoc] at folded
    obtain ⟨cert,parsed,folded⟩ := Outcome.bindOkIff.mp folded
    obtain ⟨all,same⟩ := ih folded
    refine ⟨?_,?_⟩
    · intro other member
      rcases List.mem_cons.mp member with rfl | later
      · exact ⟨cert,parsed⟩
      · exact all other later
    · rw [same,Bool.or_eq_true,or_assoc]
      refine or_congr_right ?_
      simp [parsed]

structure Verified (lib : Libraries Anchor) (leaf : Bytes) (rootDer : List Bytes) (description : String)
    (v : VerifiedCredential) : Prop where
  signer : ∃ cert, parseDeviceCertificate lib leaf description = .ok cert ∧ v.leafPublicKey = cert.subjectPublicKey ∧
    (∃ size, cert.keySize = .ok size ∧ 2048 ≤ size) ∧ ∃ usage, cert.digitalSignature = .ok usage ∧ usage ≠ some false
  chain : ∃ intermediates root, v.certificates = leaf::intermediates ++ [root] ∧ root ∈ rootDer
  audioOnly : v.audioOnly = true ↔ ∃ der ∈ v.certificates, ∃ cert,
    parseDeviceCertificate lib der description = .ok cert ∧ hasAudioOnlyPolicy cert

theorem validateSigningKeyOk {cert : DeviceCertificate} {description : String}
    (valid : validateSigningKey cert description = .ok ()) :
    (∃ size, cert.keySize = .ok size ∧ 2048 ≤ size) ∧ ∃ usage, cert.digitalSignature = .ok usage ∧ usage ≠ some false := by
  unfold validateSigningKey at valid
  obtain ⟨size,sized,valid⟩ := Outcome.bindOkIff.mp valid
  split at valid
  · simp at valid
  · rename_i large
    obtain ⟨usage,used,valid⟩ := Outcome.bindOkIff.mp valid
    split at valid
    · simp at valid
    · rename_i allowed
      exact ⟨⟨size,failingOk sized,not_lt.mp large⟩,usage,failingOk used,allowed⟩

theorem verifyChainOk [DecidableEq Anchor] {reading : Option Nat} {leaf : Bytes} {intermediates rootDer : List Bytes}
    {description : String} {v : VerifiedCredential}
    (passed : verifyChain lib reading leaf intermediates rootDer description = .ok v) :
    Verified lib leaf rootDer description v := by
  unfold verifyChain at passed
  obtain ⟨_,_,passed⟩ := Outcome.bindOkIff.mp passed
  obtain ⟨roots,_,passed⟩ := Outcome.bindOkIff.mp passed
  obtain ⟨now,_,passed⟩ := Outcome.bindOkIff.mp passed
  obtain ⟨path,_,passed⟩ := Outcome.bindOkIff.mp passed
  obtain ⟨leafX509,parsed,passed⟩ := Outcome.bindOkIff.mp passed
  obtain ⟨_,valid,passed⟩ := Outcome.bindOkIff.mp passed
  obtain ⟨root,trusted,passed⟩ := Outcome.bindOkIff.mp passed
  obtain ⟨audioOnly,folded,passed⟩ := Outcome.bindOkIff.mp passed
  cases Outcome.ok.inj passed
  refine ⟨⟨leafX509,parsed,rfl,validateSigningKeyOk valid⟩,⟨path.1,root,rfl,trustedRootGiven trusted⟩,?_⟩
  rw [(audioOnlyFolded folded).2]
  simp

structure Passes [DecidableEq Anchor] (lib : Libraries Anchor) (clock : Clock) (r : AuthResponse)
    (nonce : Vector UInt8 nonceSize) (tlsPeerCertificate : Bytes) (verified : VerifiedCredential) : Prop where
  lifetime : verifyTlsCertificateLifetime lib clock.tls tlsPeerCertificate = .ok ()
  echoed : verifySenderNonce r.senderNonce nonce.toList = .ok ()
  chain : verifyDeviceCredentialChain lib clock.chain r.clientAuthCertificate r.intermediateCertificates = .ok verified
  signed : verifyAuthSignature lib r verified.leafPublicKey (authSignatureInput nonce.toList tlsPeerCertificate) = .ok ()

section
variable [DecidableEq Anchor] {clock : Clock} {payload : Bytes} {nonce : Vector UInt8 nonceSize}
  {tlsPeerCertificate : Bytes} {r : AuthResponse} {verified : VerifiedCredential} {identity : DeviceIdentity}

theorem Passes.reply (passes : Passes lib clock r nonce tlsPeerCertificate verified)
    (parsed : parseDeviceAuthMessage payload = .ok r) :
    verifyChallengeReply lib clock payload nonce tlsPeerCertificate =
      checkRevocation lib clock r.crl verified.certificates >>= fun checked =>
        .ok ⟨lib.sha256 r.clientAuthCertificate,verified.audioOnly,checked⟩ := by
  rw [verifyChallengeReply,passes.lifetime,Outcome.okBind,parsed,Outcome.okBind,passes.echoed,Outcome.okBind,
    passes.chain,Outcome.okBind,passes.signed,Outcome.okBind]

theorem replyPasses (accepted : verifyChallengeReply lib clock payload nonce tlsPeerCertificate = .ok identity) :
    ∃ r verified, parseDeviceAuthMessage payload = .ok r ∧ Passes lib clock r nonce tlsPeerCertificate verified ∧
      checkRevocation lib clock r.crl verified.certificates = .ok identity.revocationChecked ∧
      identity.certificateSha256 = lib.sha256 r.clientAuthCertificate ∧ identity.audioOnly = verified.audioOnly := by
  unfold verifyChallengeReply at accepted
  obtain ⟨_,lifetime,accepted⟩ := Outcome.bindOkIff.mp accepted
  obtain ⟨r,parsed,accepted⟩ := Outcome.bindOkIff.mp accepted
  obtain ⟨_,echoed,accepted⟩ := Outcome.bindOkIff.mp accepted
  obtain ⟨verified,chain,accepted⟩ := Outcome.bindOkIff.mp accepted
  obtain ⟨_,signed,accepted⟩ := Outcome.bindOkIff.mp accepted
  obtain ⟨revocationChecked,revocation,accepted⟩ := Outcome.bindOkIff.mp accepted
  cases Outcome.ok.inj accepted
  exact ⟨r,verified,parsed,⟨lifetime,echoed,chain,signed⟩,revocation,rfl,rfl⟩

theorem Passes.verifies (passes : Passes lib clock r nonce tlsPeerCertificate verified) :
    ∃ algorithm, lib.verify algorithm verified.leafPublicKey
      (authSignatureInput nonce.toList tlsPeerCertificate) r.signature := by
  obtain ⟨algorithm,_,signed⟩ := Outcome.bindOkIff.mp passes.signed
  split at signed
  · exact ⟨algorithm,by assumption⟩
  · simp at signed

end

end

/- Every string is a certificate with itself as its key, and a signature is the key with the input. -/
def exampleLibraries : Libraries Bytes where
  x509 der := .ok ([],⟨⟨der,[1],100⟩,0,der,.ok 2048,.ok none,[]⟩)
  sha256 := id
  endEntityCert _ := .ok ()
  anchorFromTrustedCert := .ok
  verifyForUsage _ roots _ _ := .ok ([],roots.headD [])
  verify _ key input signature := signature = key ++ input
  castRoot := [8]
  eurekaRoot := [9]
  castCrlRoot := [10]

def exampleNonce : Vector UInt8 nonceSize := Vector.replicate 16 7

def exampleReply : AuthResponse :=
  ⟨[5] ++ authSignatureInput exampleNonce.toList [6],[5],[],.pkcs1V15,some exampleNonce.toList,.sha256,none⟩

def exampleClock : Clock := ⟨some 50,some 50,fun _ => some 50,some 50⟩

end Auth
end Chromiacast
