import Chromiacast.Basis.Dialogue
import Chromiacast.ControlReplies
import Chromiacast.DeviceAgreement
import Chromiacast.DeviceInfo
import Chromiacast.OfferDocument

/-! The calls on a control connection. A call sends commands to the control loop and waits for what
comes back; between its steps the loop may take any other input. -/
namespace Chromiacast
open Basis

inductive CallError where
  | control (error : ControlError)
  | authenticationFailed (detail : String)
  deriving DecidableEq, Repr

structure CastConnection where
  remoteAddress : String
  deviceIdentity : Option Auth.DeviceIdentity
  deriving DecidableEq, Repr

section Connect
open Auth

structure Dialled where
  tcp : Timed Unit
  tls : Timed (List Bytes)
  exchange : Exchange
  connect : Timed Unit

def connecting {α : Type} (late error : String) : Timed α → Outcome CallError α
  | .elapsed => .err (.control (.connectionFailed late))
  | .done (.ok value) => .ok value
  | .done (.error detail) => .err (.control (.connectionFailed (error ++ detail)))

def authenticated {α : Type} : Outcome String α → Outcome CallError α
  | .ok value => .ok value
  | .err detail => .err (.authenticationFailed detail)
  | .panic => .panic

variable {Anchor : Type} [DecidableEq Anchor] (lib : Libraries Anchor)

def deviceIdentityOf (authenticateDevice : Bool) (exchange : Exchange) (nonce : Vector UInt8 nonceSize)
    (peerCertificate : Bytes) : Outcome CallError (Option DeviceIdentity) :=
  if authenticateDevice then do
    let identity ← authenticated (authenticateReceiver lib exchange nonce peerCertificate)
    .ok (some identity)
  else .ok none

def connectAddressInner (address : String) (authenticateDevice : Bool) (dialled : Dialled)
    (nonce : Vector UInt8 nonceSize) : Outcome CallError CastConnection := do
  let _ ← connecting ("TCP connect to " ++ address ++ " timed out") ("TCP connect to " ++ address ++ ": ") dialled.tcp
  let certificates ← connecting ("TLS handshake with " ++ address ++ " timed out")
    ("TLS handshake with " ++ address ++ ": ") dialled.tls
  match certificates with
  | [] => .err (.control (.connectionFailed "receiver did not present a TLS certificate"))
  | peerCertificate::_ =>
    let deviceIdentity ← deviceIdentityOf lib authenticateDevice dialled.exchange nonce peerCertificate
    let _ ← connecting "initial CONNECT: Cast control write timed out" "initial CONNECT: " dialled.connect
    .ok ⟨address,deviceIdentity⟩

def connectAddress (address : String) (dialled : Dialled) (nonce : Vector UInt8 nonceSize) :
    Outcome CallError CastConnection := connectAddressInner lib address true dialled nonce

end Connect

inductive Waited (α : Type) where
  | value (value : α)
  | dropped
  | timedOut

def ControlCommand.Reply : ControlCommand → Type
  | .receiverRequest _ _ _ => Response
  | .productInfoRequest _ => Response
  | .sendOffer _ _ => Response
  | .sendFire _ _ _ => Except ControlError Unit
  | .close => Unit

inductive Question where
  | command (command : ControlCommand)
  | task

/- There is no reply channel when the loop no longer takes commands. -/
def Question.Reply : Question → Type
  | .command sent => Option (Waited sent.Reply)
  | .task => Except ControlError Unit

abbrev Call (α : Type) := Dialogue Question Question.Reply (Except CallError α)

def controlClosedError : CallError := .control (.connectionFailed "control channel closed")

def protocolFailure {α : Type} (detail : String) : Except CallError α := .error (.control (.protocolError detail))

def Call.andThen {α β : Type} (call : Call α) (next : α → Call β) : Call β :=
  call.bind fun result =>
    match result with
    | .ok value => next value
    | .error e => .done (.error e)

def Call.ofExcept {α : Type} (result : Except ControlError α) : Call α :=
  .done (result.mapError CallError.control)

def awaitJsonResponse (operation : String) : Waited Response → Except CallError Json
  | .value response => response.mapError CallError.control
  | .dropped => .error controlClosedError
  | .timedOut => protocolFailure (operation ++ " timed out")

namespace CastConnection

def receiverRequest (operation : ReceiverOperation) (payload : Option (List (String × Json)))
    (custom : payload = none → operation ≠ .setVolume ∧ operation ≠ .stop) (description : String) : Call Json :=
  .ask (.command (.receiverRequest operation payload custom)) fun (reply : Option (Waited Response)) =>
    match reply with
    | none => .done (.error controlClosedError)
    | some waited => .done (awaitJsonResponse description waited)

def productInfoRequest (operation : ProductInfoOperation) (timeoutIsUnsupported : Bool) : Call (Option Json) :=
  .ask (.command (.productInfoRequest operation)) fun (reply : Option (Waited Response)) =>
    match reply with
    | none => .done (.error controlClosedError)
    | some (.value response) => .done ((response.map some).mapError CallError.control)
    | some .dropped => .done (.error controlClosedError)
    | some .timedOut =>
      if timeoutIsUnsupported then .done (.ok none) else .done (protocolFailure (operation.messageType ++ " timed out"))

def sendFire (nameSpace destination : String) (payload : Json) : Call Unit :=
  .ask (.command (.sendFire nameSpace destination payload)) fun (reply : Option (Waited (Except ControlError Unit))) =>
    match reply with
    | none => .done (.error controlClosedError)
    | some (.value result) => Call.ofExcept result
    | some .dropped => .done (.error controlClosedError)
    | some .timedOut => .done (protocolFailure "control write timed out")

def requireAuthenticatedProductInfo (connection : CastConnection) : Call Unit :=
  if connection.deviceIdentity.isNone then
    .done (.error (.authenticationFailed "product information requires an authenticated receiver"))
  else .done (.ok ())

def getDeviceInfo (connection : CastConnection) : Call DeviceInfo.AuthenticatedDeviceInfo :=
  connection.requireAuthenticatedProductInfo.andThen fun _ =>
    (productInfoRequest .deviceInfo false).andThen fun value =>
      match value with
      | none => .done (protocolFailure "GET_DEVICE_INFO returned no response")
      | some value => Call.ofExcept (DeviceInfo.parseDeviceInfo value)

def getEurekaInfo (connection : CastConnection) : Call DeviceInfo.EurekaInfoOutcome :=
  connection.requireAuthenticatedProductInfo.andThen fun _ =>
    (productInfoRequest .eurekaInfo true).andThen fun value =>
      match value with
      | none => .done (.ok .unsupported)
      | some value => Call.ofExcept (DeviceInfo.parseEurekaInfo value)

end CastConnection

inductive AppAvailability where
  | available
  | unavailable
  deriving DecidableEq, Repr

namespace CastConnection

def readAvailability (appId : String) (value : Json) : Except CallError AppAvailability :=
  match ((value.get "availability").bind fun entries => entries.get appId).bind Json.asStr with
  | none => protocolFailure ("availability response omitted application " ++ appId)
  | some "APP_AVAILABLE" => .ok .available
  | some "APP_UNAVAILABLE" => .ok .unavailable
  | some other => protocolFailure ("unknown application availability " ++ other)

def getAppAvailability (appId : String) : Call AppAvailability :=
  (receiverRequest (.availability appId) none (by simp) "application availability").andThen fun value =>
    .done (readAvailability appId value)

def status : Call ReceiverStatus :=
  (receiverRequest .status none (by simp) "receiver status").andThen fun value =>
    Call.ofExcept (parseReceiverStatus value)

def setVolume (volume : Json) : Call ReceiverStatus :=
  (receiverRequest .setVolume (some [("type",.string "SET_VOLUME"),("volume",volume)]) (by simp)
    "receiver volume update").andThen fun value =>
    Call.ofExcept (parseReceiverStatus value)

/- A level is given by the bits of its float: from zero to one, or minus zero. -/
def levelInRange (level : UInt64) : Bool :=
  level &&& 0x7FF0000000000000 ≠ 0x7FF0000000000000 && (level ≤ 0x3FF0000000000000 || level = 0x8000000000000000)

def setVolumeLevel (level : UInt64) : Call ReceiverStatus :=
  if levelInRange level then setVolume (.object [("level",.number (.float level))])
  else .done (protocolFailure "receiver volume level must be finite and in 0.0..=1.0")

def setMuted (muted : Bool) : Call ReceiverStatus := setVolume (.object [("muted",.bool muted)])

def launch (appId : String) : Call CastApp :=
  (receiverRequest (.launch appId) none (by simp) "application launch").andThen fun value =>
    (Call.ofExcept (parseReceiverStatus value)).andThen fun status =>
      match status.applications.find? fun app => app.appId = appId with
      | none => .done (.error (.control (.appLaunchFailed ("application " ++ appId ++ " was absent from RECEIVER_STATUS"))))
      | some app => (sendFire nsConnection app.transportId (.object [("type",.string "CONNECT")])).andThen fun _ =>
          .done (.ok app)

def stop (app : CastApp) : Call Unit :=
  (sendFire nsConnection app.transportId (.object [("type",.string "CLOSE")])).andThen fun _ =>
    (receiverRequest .stop (some [("type",.string "STOP"),("sessionId",.string app.sessionId)]) (by simp)
      "application stop").andThen fun _ => .done (.ok ())

def readAnswer (fromValue : Json → Except String Answer) (response : Json) : Except CallError Answer :=
  if (response.get "result").bind Json.asStr = some "error" then
    let description := (((response.get "error").bind fun error => error.get "description").bind Json.asStr).getD
      "unknown receiver error"
    .error (.control (.negotiationFailed ("receiver rejected OFFER: " ++ description)))
  else
    match response.get "answer" with
    | none => protocolFailure "ANSWER omitted the answer field"
    | some answer => (fromValue answer).mapError fun e => .control (.protocolError ("parse ANSWER: " ++ e))

def audioOnly (connection : CastConnection) : Bool := connection.deviceIdentity.any Auth.DeviceIdentity.audioOnly

def exchangeOffer (connection : CastConnection) (fromValue : Json → Except String Answer) (offer : OfferDocument)
    (app : CastApp) : Call Answer :=
  if connection.audioOnly ∧ offer.hasVideo then
    .done (.error (.control (.negotiationFailed "authenticated receiver credential is restricted to audio-only use")))
  else .ask (.command (.sendOffer app.transportId offer.toValue)) fun (reply : Option (Waited Response)) =>
    match reply with
    | none => .done (.error controlClosedError)
    | some waited => .done ((awaitJsonResponse "streaming OFFER" waited).bind (readAnswer fromValue))

/- Whether the request to close was heard does not matter: the loop's own result counts. -/
def close : Call Unit :=
  .ask (.command .close) fun _ => .ask .task fun (result : Except ControlError Unit) => Call.ofExcept result

end CastConnection

end Chromiacast
