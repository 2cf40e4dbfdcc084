import Chromiacast.Basis.Transport
import Chromiacast.Basis.Unsigned

/-! The client's identity for the Android TV remote: a certificate and the RSA key it was made for.
Certificates and keys are parsed by libraries; what is compared are the numbers they give. -/
namespace Chromiacast.AndroidTv
open Basis

inductive AndroidTvError where
  | invalidIdentity (detail : String)
  | invalidClientInfo (detail : String)
  | invalidPairingCode
  | pairingRejected (status : Int32)
  | unsupportedPairingConfiguration
  | unsupportedFeature (name : String)
  | connectionClosed
  | timedOut (operation : String)
  | connection (detail : String)
  | protocol (detail : String)
  | crypto (detail : String)
  | io (error : IoError)
  deriving DecidableEq, Repr

def AndroidTvError.display : AndroidTvError → String
  | invalidIdentity detail => "invalid Android TV client identity: " ++ detail
  | invalidClientInfo detail => "invalid Android TV client information: " ++ detail
  | invalidPairingCode => "pairing code must contain exactly six hexadecimal digits"
  | pairingRejected status => "Android TV rejected pairing with protocol status " ++ toString status
  | unsupportedPairingConfiguration => "Android TV does not offer six-digit hexadecimal pairing"
  | unsupportedFeature name => "Android TV does not support the " ++ name ++ " remote capability"
  | connectionClosed => "Android TV connection closed"
  | timedOut operation => "Android TV " ++ operation ++ " timed out"
  | connection detail => "Android TV connection failed: " ++ detail
  | protocol detail => "Android TV protocol error: " ++ detail
  | crypto detail => "Android TV cryptographic operation failed: " ++ detail
  | io error => error.detail

def invalidIdentity {α : Type} (detail : String) : Outcome AndroidTvError α := .err (.invalidIdentity detail)

def protocolError {α : Type} (detail : String) : Outcome AndroidTvError α := .err (.protocol detail)

def rsaBits : Nat := 2048
def maxCertificateDerBytes : Nat := 64*1024
def maxPrivateKeyDerBytes : Nat := 64*1024

inductive PublicKey where
  | rsa (modulus exponent : Bytes)
  | other
  deriving DecidableEq, Repr

structure KeyParsers (Certificate PrivateKey : Type) where
  certificate : Bytes → Except String (Bytes × Certificate)
  publicKey : Certificate → Except String PublicKey
  privateKey : Bytes → Except String PrivateKey
  validate : PrivateKey → Except String Unit
  n : PrivateKey → Nat
  e : PrivateKey → Nat

structure AndroidTvRemoteIdentity where
  certificateDer : Bytes
  privateKeyPkcs8Der : Bytes
  modulus : Bytes
  exponent : Bytes
  deriving DecidableEq, Repr

def minimalUnsigned (bytes : Bytes) : Bytes := bytes.drop (bytes.findIdx (· ≠ 0))

def leadingZeros (byte : UInt8) : Nat := if byte = 0 then 8 else 7-byte.toNat.log2

def unsignedBits (bytes : Bytes) : Nat := (bytes.head?.map fun first => bytes.length*8-leadingZeros first).getD 0

def parsing {α : Type} (doing : String) : Except String α → Outcome AndroidTvError α
  | .ok value => .ok value
  | .error detail => invalidIdentity (doing ++ ": " ++ detail)

section
variable {Certificate PrivateKey : Type} (parsers : KeyParsers Certificate PrivateKey)

def rsaParametersFromCertificate (certificateDer : Bytes) : Outcome AndroidTvError (Bytes × Bytes) :=
  if certificateDer = [] ∨ maxCertificateDerBytes < certificateDer.length then
    invalidIdentity "X.509 certificate must be 1..=64 KiB"
  else do
    let (remainder,certificate) ← parsing "parse X.509 certificate" (parsers.certificate certificateDer)
    if remainder ≠ [] then invalidIdentity "X.509 certificate contains trailing bytes"
    else match ← parsing "parse certificate public key" (parsers.publicKey certificate) with
      | .other => invalidIdentity "certificate public key is not RSA"
      | .rsa modulus exponent =>
        let modulus := minimalUnsigned modulus
        let exponent := minimalUnsigned exponent
        if modulus = [] ∨ exponent = [] then invalidIdentity "certificate contains an empty RSA parameter"
        else .ok (modulus,exponent)

def matchPrivateKey (certificateDer privateKeyPkcs8Der modulus exponent : Bytes) :
    Outcome AndroidTvError AndroidTvRemoteIdentity := do
  let privateKey ← parsing "parse PKCS#8 RSA key" (parsers.privateKey privateKeyPkcs8Der)
  let _ ← parsing "validate RSA key" (parsers.validate privateKey)
  if toBytesBe (parsers.n privateKey) ≠ modulus ∨ toBytesBe (parsers.e privateKey) ≠ exponent then
    invalidIdentity "certificate public key does not match the private key"
  else .ok ⟨certificateDer,privateKeyPkcs8Der,modulus,exponent⟩

def AndroidTvRemoteIdentity.fromDer (certificateDer privateKeyPkcs8Der : Bytes) :
    Outcome AndroidTvError AndroidTvRemoteIdentity :=
  if privateKeyPkcs8Der = [] ∨ maxPrivateKeyDerBytes < privateKeyPkcs8Der.length then
    invalidIdentity "PKCS#8 private key must be 1..=64 KiB"
  else do
    let (modulus,exponent) ← rsaParametersFromCertificate parsers certificateDer
    if unsignedBits modulus < rsaBits then invalidIdentity "RSA key is smaller than 2048 bits"
    else matchPrivateKey parsers certificateDer privateKeyPkcs8Der modulus exponent

end

theorem minimalDropsZeros (bytes : Bytes) : minimalUnsigned bytes = dropZeros bytes := by
  rw [minimalUnsigned,dropZeros]
  induction bytes with
  | nil => rfl
  | cons first rest ih =>
    by_cases zero : first = 0
    · rw [List.dropWhile_cons_of_pos (by simp [zero]),← ih,List.findIdx_cons]
      simp [zero]
    · rw [List.dropWhile_cons_of_neg (by simpa using zero),List.findIdx_cons]
      simp [zero]

theorem minimalUnsignedMinimal (bytes : Bytes) : Minimal (minimalUnsigned bytes) := by
  rw [minimalDropsZeros]
  exact dropZerosMinimal bytes

theorem readMinimalUnsigned (bytes : Bytes) : readBE (minimalUnsigned bytes) = readBE bytes := by
  rw [minimalDropsZeros,readDropZeros]

theorem minimalUnsignedNonempty (bytes : Bytes) : minimalUnsigned bytes ≠ [] ↔ readBE bytes ≠ 0 := by
  rw [← readMinimalUnsigned]
  exact (minimalNil (minimalUnsignedMinimal bytes)).not.symm

theorem unsignedBitsRead {bytes : Bytes} (minimal : Minimal bytes) (nonempty : bytes ≠ []) :
    unsignedBits bytes = (readBE bytes).log2+1 := by
  cases bytes with
  | nil => exact absurd rfl nonempty
  | cons first rest =>
    have nonzero : first ≠ 0 := fun zero => minimal (by simp [zero])
    have positive : first.toNat ≠ 0 := fun zero => nonzero (UInt8.toNat_inj.mp zero)
    have small : first.toNat.log2 < 8 := (Nat.log2_lt positive).mpr first.toNat_lt
    rw [minimalLog nonzero]
    simp only [unsignedBits,List.head?_cons,Option.map_some,Option.getD_some,List.length_cons,leadingZeros,
      if_neg nonzero]
    omega

theorem unsignedBitsEnough {bytes : Bytes} (minimal : Minimal bytes) (nonempty : bytes ≠ []) :
    rsaBits ≤ unsignedBits bytes ↔ 2^2047 ≤ readBE bytes := by
  have present : readBE bytes ≠ 0 := fun zero => nonempty ((minimalNil minimal).mp zero)
  rw [unsignedBitsRead minimal nonempty,← Nat.le_log2 present,rsaBits]
  omega

theorem parsingOk {α : Type} {doing : String} {parsed : Except String α} {value : α} :
    parsing doing parsed = .ok value ↔ parsed = .ok value := by
  cases parsed <;> simp [parsing,invalidIdentity]

def HoldsKey {Certificate PrivateKey : Type} (parsers : KeyParsers Certificate PrivateKey) (der : Bytes)
    (modulus exponent : Nat) : Prop :=
  1 ≤ der.length ∧ der.length ≤ maxCertificateDerBytes ∧ 0 < modulus ∧ 0 < exponent ∧
    ∃ certificate m e, parsers.certificate der = .ok ([],certificate) ∧
      parsers.publicKey certificate = .ok (.rsa m e) ∧ readBE m = modulus ∧ readBE e = exponent

theorem minimalUnsignedValue {bytes : Bytes} (present : readBE bytes ≠ 0) :
    minimalUnsigned bytes = toBytesBe (readBE bytes) :=
  minimalInjective (minimalUnsignedMinimal bytes) (toBytesBeMinimal present)
    (by rw [readMinimalUnsigned,readToBytesBe])

theorem sizeChecked {α : Type} {der : Bytes} {most : Nat} {message : String} {checked : Outcome AndroidTvError α}
    {value : α} :
    (if der = [] ∨ most < der.length then invalidIdentity message else checked) = .ok value ↔
      1 ≤ der.length ∧ der.length ≤ most ∧ checked = .ok value := by
  by_cases outside : der = [] ∨ most < der.length
  · rw [if_pos outside]
    refine ⟨fun accepted => by simp [invalidIdentity] at accepted,fun ⟨least,short,_⟩ => ?_⟩
    rcases outside with rfl | long
    · simp at least
    · omega
  · obtain ⟨nonempty,short⟩ := not_or.mp outside
    rw [if_neg outside,← and_assoc]
    exact (and_iff_right ⟨List.length_pos_iff.mpr nonempty,not_lt.mp short⟩).symm

theorem parametersFilled {m e : Bytes} {message : String} {parameters : Bytes × Bytes} :
    (if minimalUnsigned m = [] ∨ minimalUnsigned e = [] then invalidIdentity message
      else .ok (minimalUnsigned m,minimalUnsigned e)) = .ok parameters ↔
      0 < readBE m ∧ 0 < readBE e ∧ parameters = (toBytesBe (readBE m),toBytesBe (readBE e)) := by
  have nonempty (bytes : Bytes) : minimalUnsigned bytes ≠ [] ↔ 0 < readBE bytes :=
    (minimalUnsignedNonempty bytes).trans Nat.pos_iff_ne_zero.symm
  constructor
  · intro filled
    split at filled <;> try contradiction
    rename_i both
    obtain ⟨some,other⟩ := not_or.mp both
    have large := (nonempty m).mp some
    have positive := (nonempty e).mp other
    cases Outcome.ok.inj filled
    exact ⟨large,positive,by rw [minimalUnsignedValue large.ne',minimalUnsignedValue positive.ne']⟩
  · rintro ⟨large,positive,rfl⟩
    rw [if_neg (not_or.mpr ⟨(nonempty m).mpr large,(nonempty e).mpr positive⟩),minimalUnsignedValue large.ne',
      minimalUnsignedValue positive.ne']

section
variable {Certificate PrivateKey : Type} {parsers : KeyParsers Certificate PrivateKey}

theorem parametersRead {der modulus exponent : Bytes} :
    rsaParametersFromCertificate parsers der = .ok (modulus,exponent) ↔
      ∃ n e, HoldsKey parsers der n e ∧ modulus = toBytesBe n ∧ exponent = toBytesBe e := by
  unfold rsaParametersFromCertificate
  rw [sizeChecked,Outcome.bindOkIff]
  constructor
  · rintro ⟨least,most,⟨remainder,certificate⟩,parsed,read⟩
    rw [parsingOk] at parsed
    dsimp only at read
    split at read <;> try contradiction
    rename_i whole
    cases not_not.mp whole
    obtain ⟨key,keyed,read⟩ := Outcome.bindOkIff.mp read
    rw [parsingOk] at keyed
    cases key with
    | other => simp [invalidIdentity] at read
    | rsa m e =>
      obtain ⟨large,positive,same⟩ := parametersFilled.mp read
      obtain ⟨rfl,rfl⟩ := Prod.mk.inj same
      exact ⟨readBE m,readBE e,⟨least,most,large,positive,certificate,m,e,parsed,keyed,rfl,rfl⟩,rfl,rfl⟩
  · rintro ⟨n,e,⟨least,most,large,positive,certificate,m,f,parsed,keyed,rfl,rfl⟩,rfl,rfl⟩
    refine ⟨least,most,([],certificate),parsingOk.mpr parsed,?_⟩
    dsimp only
    rw [if_neg (by simp),parsingOk.mpr keyed,Outcome.okBind]
    exact parametersFilled.mpr ⟨large,positive,rfl⟩

theorem privateKeyMatched {der secret modulus exponent : Bytes} {identity : AndroidTvRemoteIdentity} :
    matchPrivateKey parsers der secret modulus exponent = .ok identity ↔
      ∃ key, parsers.privateKey secret = .ok key ∧ parsers.validate key = .ok () ∧
        toBytesBe (parsers.n key) = modulus ∧ toBytesBe (parsers.e key) = exponent ∧
        identity = ⟨der,secret,modulus,exponent⟩ := by
  unfold matchPrivateKey
  rw [Outcome.bindOkIff]
  refine exists_congr fun key => ?_
  rw [parsingOk,Outcome.bindOkIff]
  refine and_congr_right fun _ => ⟨?_,?_⟩
  · rintro ⟨⟨⟩,valid,matched⟩
    rw [parsingOk] at valid
    split at matched <;> try contradiction
    rename_i same
    obtain ⟨modulusSame,exponentSame⟩ := not_or.mp same
    exact ⟨valid,not_not.mp modulusSame,not_not.mp exponentSame,(Outcome.ok.inj matched).symm⟩
  · rintro ⟨valid,modulusSame,exponentSame,rfl⟩
    exact ⟨(),parsingOk.mpr valid,if_neg (by simp [modulusSame,exponentSame])⟩

theorem toBytesBeSame {n m : Nat} : toBytesBe n = toBytesBe m ↔ n = m := by
  refine ⟨fun same => ?_,fun same => by rw [same]⟩
  rw [← readToBytesBe n,same,readToBytesBe]

theorem toBytesBeEnough {n : Nat} (positive : 0 < n) : unsignedBits (toBytesBe n) < rsaBits ↔ n < 2^2047 := by
  have nonempty : toBytesBe n ≠ [] := by
    intro empty
    have read := readToBytesBe n
    rw [empty,readBeNil] at read
    omega
  have enough := unsignedBitsEnough (toBytesBeMinimal positive.ne') nonempty
  rw [readToBytesBe] at enough
  rw [← not_le,enough,not_le]

theorem identityAccepted (parsers : KeyParsers Certificate PrivateKey) (certificateDer privateKeyPkcs8Der : Bytes)
    (identity : AndroidTvRemoteIdentity) :
    AndroidTvRemoteIdentity.fromDer parsers certificateDer privateKeyPkcs8Der = .ok identity ↔
      ∃ key, 1 ≤ privateKeyPkcs8Der.length ∧ privateKeyPkcs8Der.length ≤ maxPrivateKeyDerBytes ∧
        parsers.privateKey privateKeyPkcs8Der = .ok key ∧ parsers.validate key = .ok () ∧
        HoldsKey parsers certificateDer (parsers.n key) (parsers.e key) ∧ 2^2047 ≤ parsers.n key ∧
        identity = ⟨certificateDer,privateKeyPkcs8Der,toBytesBe (parsers.n key),toBytesBe (parsers.e key)⟩ := by
  unfold AndroidTvRemoteIdentity.fromDer
  rw [sizeChecked,Outcome.bindOkIff]
  constructor
  · rintro ⟨least,most,⟨modulus,exponent⟩,read,accepted⟩
    obtain ⟨n,e,holds,rfl,rfl⟩ := parametersRead.mp read
    dsimp only at accepted
    split at accepted <;> try contradiction
    rename_i enough
    rw [toBytesBeEnough holds.2.2.1,not_lt] at enough
    obtain ⟨key,parsed,valid,modulusSame,exponentSame,rfl⟩ := privateKeyMatched.mp accepted
    rw [toBytesBeSame] at modulusSame exponentSame
    subst modulusSame exponentSame
    exact ⟨key,least,most,parsed,valid,holds,enough,rfl⟩
  · rintro ⟨key,least,most,parsed,valid,holds,enough,rfl⟩
    refine ⟨least,most,_,parametersRead.mpr ⟨_,_,holds,rfl,rfl⟩,?_⟩
    dsimp only
    rw [if_neg (by rw [toBytesBeEnough holds.2.2.1,not_lt]; exact enough)]
    exact privateKeyMatched.mpr ⟨key,parsed,valid,rfl,rfl,rfl⟩

end

end Chromiacast.AndroidTv
