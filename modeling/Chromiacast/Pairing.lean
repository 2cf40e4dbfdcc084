import Chromiacast.Basis.Dialogue
import Chromiacast.PairingCode
import Chromiacast.RemoteHandshake

/-! Pairing with an Android TV device. Client and device take turns; the last message proves that
the user has read the code the device shows, and binds both parties' RSA keys. Frames and their
decoding are those of the framed reader and the protobuf library, SHA-256 is a parameter. -/
namespace Chromiacast.AndroidTv
open Basis

def pairingStatusOk : Int32 := 200
def pairingProtocolVersion : UInt32 := 2
def roleInput : Int32 := 1
def encodingHexadecimal : Int32 := 3
def pairingSymbolLength : UInt32 := 6
def serviceName : String := "atvremote"
def maxPeerNameBytes : Nat := 256
def maxClientNameBytes : Nat := 128

structure PairingRequest where
  serviceName : String
  clientName : Option String
  deriving DecidableEq, Repr

structure PairingRequestAck where
  serverName : Option String
  deriving DecidableEq, Repr

structure PairingEncoding where
  encodingType : Int32
  symbolLength : UInt32
  deriving DecidableEq, Repr

def PairingEncoding.hexadecimalPin : PairingEncoding := ⟨encodingHexadecimal,pairingSymbolLength⟩

def PairingEncoding.isHexadecimalPin (encoding : PairingEncoding) : Bool :=
  encoding.encodingType = encodingHexadecimal && encoding.symbolLength = pairingSymbolLength

structure PairingOptions where
  inputEncodings : List PairingEncoding
  outputEncodings : List PairingEncoding
  preferredRole : Option Int32
  deriving DecidableEq, Repr

structure PairingConfiguration where
  encoding : Option PairingEncoding
  clientRole : Int32
  deriving DecidableEq, Repr

structure PairingConfigurationAck where
  deriving DecidableEq, Repr

structure PairingSecret where
  secret : Bytes
  deriving DecidableEq, Repr

structure PairingSecretAck where
  secret : Bytes
  deriving DecidableEq, Repr

structure PairingEnvelope where
  protocolVersion : UInt32 := 0
  status : Int32 := 0
  pairingRequest : Option PairingRequest := none
  pairingRequestAck : Option PairingRequestAck := none
  options : Option PairingOptions := none
  configuration : Option PairingConfiguration := none
  configurationAck : Option PairingConfigurationAck := none
  secret : Option PairingSecret := none
  secretAck : Option PairingSecretAck := none
  deriving DecidableEq, Repr

def PairingEnvelope.ok : PairingEnvelope := {protocolVersion := pairingProtocolVersion, status := pairingStatusOk}

/- What the exchange asks of its stream, each time with five seconds to reply. -/
inductive PairingQuestion where
  | write (message : PairingEnvelope) (operation : String)
  | read (operation : String)
  | shutdown

@[reducible] def PairingQuestion.Reply : PairingQuestion → Type
  | write _ _ => Option (Except IoError Unit)
  | read _ => Option (Except IoError Bytes)
  | shutdown => Unit

abbrev PairingCall (α : Type) := Dialogue PairingQuestion PairingQuestion.Reply (Outcome AndroidTvError α)

def PairingCall.andThen {α β : Type} (call : PairingCall α) (next : α → PairingCall β) : PairingCall β :=
  call.bind fun result =>
    match result with
    | .ok value => next value
    | .err e => .done (.err e)
    | .panic => .done .panic

def inTime {α : Type} (operation : String) : Option (Except IoError α) → Outcome AndroidTvError α
  | none => .err (.timedOut operation)
  | some (.error e) => .err (.io e)
  | some (.ok value) => .ok value

def validateClientName (clientName : String) : Outcome AndroidTvError Unit :=
  if clientName = "" ∨ maxClientNameBytes < clientName.utf8ByteSize ∨ clientName.toList.any isControl then
    .err (.invalidClientInfo "pairing client name must be 1..=128 bytes without control characters")
  else .ok ()

def validatePeerName (peerName : String) : Outcome AndroidTvError String :=
  if maxPeerNameBytes < peerName.utf8ByteSize ∨ peerName.toList.any isControl then
    protocolError "pairing server name is invalid"
  else .ok peerName

structure PairingExchange where
  keys : PairingKeys
  serverName : Option String
  deriving DecidableEq, Repr

def requestMessage (clientName : String) : PairingEnvelope :=
  {PairingEnvelope.ok with pairingRequest := some ⟨serviceName,some clientName⟩}

def optionsMessage : PairingEnvelope :=
  {PairingEnvelope.ok with options := some ⟨[.hexadecimalPin],[],some roleInput⟩}

def configurationMessage : PairingEnvelope :=
  {PairingEnvelope.ok with configuration := some ⟨some .hexadecimalPin,roleInput⟩}

def secretMessage (secret : Bytes) : PairingEnvelope := {PairingEnvelope.ok with secret := some ⟨secret⟩}

def serverNameOf (acknowledgement : PairingEnvelope) : Outcome AndroidTvError (Option String) :=
  match acknowledgement.pairingRequestAck with
  | none => protocolError "expected pairing-request acknowledgement"
  | some ⟨none⟩ => .ok none
  | some ⟨some name⟩ => do
    let name ← validatePeerName name
    .ok (if name = "" then none else some name)

def checkDeviceOptions (message : PairingEnvelope) : Outcome AndroidTvError Unit :=
  match message.options with
  | none => protocolError "expected device pairing options"
  | some deviceOptions =>
    if deviceOptions.outputEncodings.any PairingEncoding.isHexadecimalPin then .ok ()
    else .err .unsupportedPairingConfiguration

def checkConfigurationAck (message : PairingEnvelope) : Outcome AndroidTvError Unit :=
  if message.configurationAck.isSome then .ok () else protocolError "expected pairing-configuration acknowledgement"

/- A secret in the acknowledgement is not looked at. -/
def checkSecretAck (message : PairingEnvelope) : Outcome AndroidTvError Unit :=
  if message.secretAck.isSome then .ok () else protocolError "expected pairing-secret acknowledgement"

section Exchange
variable (decode : Bytes → Except String PairingEnvelope) (sha256 : Bytes → Vector UInt8 32)

def acceptEnvelope (operation : String) (frame : Bytes) : Outcome AndroidTvError PairingEnvelope :=
  match decode frame with
  | .error e => protocolError ("decode " ++ operation ++ ": " ++ e)
  | .ok message =>
    if message.status ≠ pairingStatusOk then .err (.pairingRejected message.status)
    else if message.protocolVersion = 0 ∨ 2 < message.protocolVersion then
      protocolError ("unsupported pairing protocol version " ++ toString message.protocolVersion)
    else .ok message

def readPairing (operation : String) : PairingCall PairingEnvelope :=
  .ask (.read operation) fun (reply : Option (Except IoError Bytes)) =>
    .done (inTime operation reply >>= acceptEnvelope decode operation)

def writePairing (message : PairingEnvelope) (operation : String) : PairingCall Unit :=
  .ask (.write message operation) fun (reply : Option (Except IoError Unit)) => .done (inTime operation reply)

def turn {α : Type} (message : PairingEnvelope) (writing reading : String)
    (check : PairingEnvelope → Outcome AndroidTvError α) : PairingCall α :=
  (writePairing message writing).andThen fun _ =>
    (readPairing decode reading).andThen fun reply => .done (check reply)

def beginExchange (keys : PairingKeys) (clientName : String) : PairingCall PairingExchange :=
  (turn decode (requestMessage clientName) "pairing request" "pairing acknowledgement"
    serverNameOf).andThen fun serverName =>
  (turn decode optionsMessage "pairing options" "device pairing options" checkDeviceOptions).andThen fun _ =>
  (turn decode configurationMessage "pairing configuration" "pairing configuration acknowledgement"
    checkConfigurationAck).andThen fun _ => .done (.ok ⟨keys,serverName⟩)

def finishExchange (exchange : PairingExchange) (pairingCode : String) : PairingCall Unit :=
  match computePairingSecret sha256 exchange.keys pairingCode with
  | .ok secret =>
    (turn decode (secretMessage secret) "pairing secret" "pairing-secret acknowledgement" checkSecretAck).andThen
      fun _ => .ask .shutdown fun _ => .done (.ok ())
  | .err e => .done (.err e)
  | .panic => .done .panic

def beginAddress {Certificate PrivateKey : Type} (parsers : KeyParsers Certificate PrivateKey)
    (connect : Outcome AndroidTvError Bytes) (identity : AndroidTvRemoteIdentity) (clientName : String) :
    PairingCall PairingExchange :=
  match validateClientName clientName >>= fun _ => connect >>= fun certificate =>
      match rsaParametersFromCertificate parsers certificate with
      | .err e => protocolError ("device TLS certificate is unusable for pairing: " ++ e.display)
      | parameters => parameters with
  | .ok (serverModulus,serverExponent) =>
    beginExchange decode ⟨identity.modulus,identity.exponent,serverModulus,serverExponent⟩ clientName
  | .err e => .done (.err e)
  | .panic => .done .panic

theorem addressBegun {Certificate PrivateKey : Type} {parsers : KeyParsers Certificate PrivateKey}
    {certificate : Bytes} {clientName : String} {n e : Nat} (identity : AndroidTvRemoteIdentity)
    (named : validateClientName clientName = .ok ()) (holds : HoldsKey parsers certificate n e) :
    beginAddress decode parsers (.ok certificate) identity clientName =
      beginExchange decode ⟨identity.modulus,identity.exponent,toBytesBe n,toBytesBe e⟩ clientName := by
  have read := parametersRead.mpr ⟨n,e,holds,rfl,rfl⟩
  rw [beginAddress,named,Outcome.okBind,Outcome.okBind,read]

theorem addressRefused {Certificate PrivateKey : Type} {parsers : KeyParsers Certificate PrivateKey}
    {connect : Outcome AndroidTvError Bytes} {clientName : String} (identity : AndroidTvRemoteIdentity)
    (refused : ¬ (validateClientName clientName = .ok () ∧
      ∃ certificate n e, connect = .ok certificate ∧ HoldsKey parsers certificate n e)) :
    ∃ result, beginAddress decode parsers connect identity clientName = .done result ∧
      ∀ exchange, result ≠ .ok exchange := by
  unfold beginAddress
  split
  · rename_i modulus exponent checked
    obtain ⟨⟨⟩,named,checked⟩ := Outcome.bindOkIff.mp checked
    obtain ⟨certificate,connected,read⟩ := Outcome.bindOkIff.mp checked
    refine absurd ⟨named,certificate,?_⟩ refused
    split at read
    · simp [protocolError] at read
    · obtain ⟨n,e,holds,_⟩ := parametersRead.mp read
      exact ⟨n,e,connected,holds⟩
  · exact ⟨_,rfl,by simp⟩
  · exact ⟨_,rfl,by simp⟩

def pairing (keys : PairingKeys) (clientName pairingCode : String) : PairingCall Unit :=
  (beginExchange decode keys clientName).andThen fun exchange => finishExchange decode sha256 exchange pairingCode

def pairingSession {Certificate PrivateKey : Type} (parsers : KeyParsers Certificate PrivateKey)
    (connect : Outcome AndroidTvError Bytes) (identity : AndroidTvRemoteIdentity) (clientName pairingCode : String) :
    PairingCall Unit :=
  (beginAddress decode parsers connect identity clientName).andThen fun exchange =>
    finishExchange decode sha256 exchange pairingCode

end Exchange

end Chromiacast.AndroidTv
