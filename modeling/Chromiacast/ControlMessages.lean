import Chromiacast.Basis.Requests
import Chromiacast.CastMessage
import Chromiacast.Json

/-! Dispatch of inbound Cast messages to the requests that wait for them. A reply
channel is a number; what is sent on it is listed with its number. The parser of
JSON texts is a parameter. -/
namespace Chromiacast
open Basis

def nsConnection : String := "urn:x-cast:com.google.cast.tp.connection"
def nsHeartbeat : String := "urn:x-cast:com.google.cast.tp.heartbeat"
def nsReceiver : String := "urn:x-cast:com.google.cast.receiver"
def nsReceiverDiscovery : String := "urn:x-cast:com.google.cast.receiver.discovery"
def nsSetup : String := "urn:x-cast:com.google.cast.setup"
def nsWebrtc : String := "urn:x-cast:com.google.cast.webrtc"

def senderId : String := "sender-0"
def receiverId : String := "receiver-0"

inductive ControlError where
  | negotiationFailed (detail : String)
  | connectionFailed (detail : String)
  | protocolError (detail : String)
  | appLaunchFailed (detail : String)
  deriving DecidableEq, Repr

def ControlError.display : ControlError → String
  | negotiationFailed detail => "negotiation failed: " ++ detail
  | connectionFailed detail => "connection failed: " ++ detail
  | protocolError detail => "protocol error: " ++ detail
  | appLaunchFailed detail => "app launch failed: " ++ detail

structure CastApp where
  appId : String
  transportId : String
  sessionId : String
  displayName : Option String
  deriving DecidableEq, Repr

structure ReceiverStatus where
  applications : List CastApp
  volumeLevel : Option JsonNumber
  muted : Option Bool
  deriving DecidableEq, Repr

inductive ControlCloseReason where
  | requested
  | peerClosed
  | heartbeatTimeout
  | error (detail : String)
  deriving DecidableEq, Repr

inductive ControlEvent where
  | receiverStatus (status : ReceiverStatus)
  | applicationStopped (app : CastApp)
  | closed (reason : ControlCloseReason)
  deriving DecidableEq, Repr

abbrev Response := Except ControlError Json

inductive ReceiverOperation where
  | availability (appId : String)
  | launch (appId : String)
  | setVolume
  | status
  | stop
  deriving DecidableEq, Repr

inductive ProductInfoOperation where
  | deviceInfo
  | eurekaInfo
  deriving DecidableEq, Repr

namespace ProductInfoOperation

def nameSpace : ProductInfoOperation → String
  | deviceInfo => nsReceiverDiscovery
  | eurekaInfo => nsSetup

def messageType : ProductInfoOperation → String
  | deviceInfo => "GET_DEVICE_INFO"
  | eurekaInfo => "eureka_info"

def requestIdField : ProductInfoOperation → String
  | deviceInfo => "requestId"
  | eurekaInfo => "request_id"

def acceptsResponseType : ProductInfoOperation → String → Bool
  | deviceInfo,messageType => messageType = "DEVICE_INFO" || messageType = "GET_DEVICE_INFO"
  | eurekaInfo,messageType => messageType = "eureka_info"

def fromNamespace (name : String) : Option ProductInfoOperation :=
  if name = nsReceiverDiscovery then some deviceInfo else if name = nsSetup then some eurekaInfo else none

end ProductInfoOperation

abbrev ReceiverRequests := Requests UInt32 ReceiverOperation
abbrev ProductInfoRequests := Requests UInt32 ProductInfoOperation
abbrev Offers := Requests UInt32 String
abbrev KnownApps := AList fun _ : String => CastApp

abbrev Answers := List (Nat × Response)

def parseCastApp (value : Json) : Option CastApp := do
  let appId ← (← value.get "appId").asStr
  let transportId ← (← value.get "transportId").asStr
  some ⟨appId,transportId,((value.get "sessionId").bind Json.asStr).getD "",(value.get "displayName").bind Json.asStr⟩

def parseReceiverStatus (value : Json) : Except ControlError ReceiverStatus :=
  match (value.get "status").bind Json.asObject with
  | none => .error (.protocolError "RECEIVER_STATUS omitted status")
  | some status =>
    let applications := (((status.get "applications").bind Json.asArray).map (List.filterMap parseCastApp)).getD []
    let volume := (status.get "volume").bind Json.asObject
    .ok ⟨applications,volume.bind fun v => (v.get "level").bind Json.asF64,
      volume.bind fun v => (v.get "muted").bind Json.asBool⟩

def receiverStatusContainsApp (status : Json) (appId : String) : Bool :=
  match ((status.get "status").bind fun s => s.get "applications").bind Json.asArray with
  | none => false
  | some applications => applications.any fun app => (app.get "appId").bind Json.asStr = some appId

def receiverErrorDescription (value : Json) (fallback : String) : String :=
  (((value.get "reason").or (value.get "error")).bind fun error =>
    ((error.get "description").bind Json.asStr).or error.asStr).getD fallback

def statusCompletes (value : Json) : ReceiverOperation → Bool
  | .launch appId => receiverStatusContainsApp value appId
  | .setVolume => true
  | .status => true
  | .stop => true
  | .availability _ => false

def launchListed (value : Json) : ReceiverOperation → Bool
  | .launch appId => receiverStatusContainsApp value appId
  | _ => false

def completeByRequestId (value : Json) (pending : ReceiverRequests) : Option UInt32 :=
  (jsonU32 value "requestId").filter fun requestId =>
    (pending.lookup requestId).any fun request => statusCompletes value request.subject

def completeReceiverStatus (value : Json) (pending : ReceiverRequests) : ReceiverRequests × Answers :=
  match completeByRequestId value pending with
  | some requestId => pending.settle requestId fun _ => .ok value
  | none =>
    Requests.settleAll (fun _ => .ok value) pending (pending.matching (launchListed value))

def completeReceiverRequest (value : Json) (pending : ReceiverRequests) (expected : ReceiverOperation → Bool) :
    ReceiverRequests × Answers :=
  match jsonU32 value "requestId" with
  | none => (pending,[])
  | some requestId => pending.settleIf requestId expected fun _ => .ok value

def completeOffer (value : Json) (source : String) (pending : Offers) : Offers × Answers :=
  match jsonU32 value "seqNum" with
  | none => (pending,[])
  | some sequenceNumber => pending.settleIf sequenceNumber (fun destination => destination = source) fun _ => .ok value

/- With no request id: the only request, or the only launch of the reported application. -/
def failingRequest (value : Json) (operation : ReceiverOperation) : Bool :=
  match operation,(value.get "appId").bind Json.asStr with
  | .launch appId,some reported => appId = reported
  | _,none => true
  | _,some _ => false

def failReceiverRequest (value : Json) (pending : ReceiverRequests) (detail : String) : ReceiverRequests × Answers :=
  match (jsonU32 value "requestId").or (Requests.sole (pending.matching (failingRequest value))) with
  | none => (pending,[])
  | some requestId => pending.settle requestId fun operation =>
      match operation with
      | .launch _ => .error (.appLaunchFailed detail)
      | _ => .error (.protocolError detail)

def failOffer (value : Json) (source : String) (offers : Offers) (detail : String) : Offers × Answers :=
  match (jsonU32 value "seqNum").or (Requests.sole (offers.matching fun destination => destination = source)) with
  | none => (offers,[])
  | some sequenceNumber => offers.settleIf sequenceNumber (fun destination => destination = source)
      fun _ => .error (.negotiationFailed detail)

def failOffersForDestination (pending : Offers) (destination detail : String) : Offers × Answers :=
  Requests.settleAll (fun _ => .error (.negotiationFailed detail)) pending
    (pending.matching fun waiting => waiting = destination)

/- Later applications with the same transport replace earlier ones. -/
def collectApps (applications : List CastApp) : KnownApps :=
  applications.foldl (fun apps app => apps.insert app.transportId app) ∅

def publishReceiverStatus (status : ReceiverStatus) (knownApps : KnownApps) : KnownApps × List ControlEvent :=
  let newApps := collectApps status.applications
  let stopped := knownApps.entries.filter fun e => e.1 ∉ newApps
  (newApps,stopped.map (fun e => ControlEvent.applicationStopped e.2) ++ [.receiverStatus status])

variable (fromStr : String → Except String Json)

def parsePayload (nameSpace payload : String) : Except ControlError Json :=
  match fromStr payload with
  | .ok value => .ok value
  | .error e => .error (.protocolError ("invalid JSON on namespace " ++ nameSpace ++ ": " ++ e))

def castMessageType (message : CastMessage) : Option String :=
  match message.payload with
  | .binary _ => none
  | .string payload =>
    match fromStr payload with
    | .ok value => jsonMessageType value
    | .error _ => none

def messageIsType (message : CastMessage) (expected : String) : Bool := castMessageType fromStr message = some expected

/- Characters that `{:?}` writes as they are: not the controls, the spaces other than the blank, the
format and private characters and the combining marks of the blocks listed here. -/
def printed (c : Char) : Bool :=
  let ranges := [(0,0x1F),(0x7F,0xA0),(0xAD,0xAD),(0x300,0x36F),(0x1680,0x1680),(0x2000,0x200F),(0x2028,0x202F),
    (0x205F,0x206F),(0x3000,0x3000),(0xE000,0xF8FF),(0xFEFF,0xFEFF),(0xFFF0,0xFFFB),(0xF0000,0x10FFFF)]
  ranges.all fun (first,last) => c.toNat < first || last < c.toNat

def escapeDebug (c : Char) : String :=
  if c = '\x00' then "\\0" else if c = '\t' then "\\t" else if c = '\r' then "\\r" else if c = '\n' then "\\n"
  else if c = '"' then "\\\"" else if c = '\\' then "\\\\" else if printed c then String.singleton c
  else "\\u\x7b" ++ String.ofList (Nat.toDigits 16 c.toNat) ++ "\x7d"

def debugText (text : String) : String := "\"" ++ String.join (text.toList.map escapeDebug) ++ "\""

def productInfoResponse (operation : ProductInfoOperation) (value : Json) : Response :=
  let messageType := (jsonMessageType value).getD ""
  if operation.acceptsResponseType messageType || messageType = "INVALID_REQUEST" then .ok value
  else .error (.protocolError ("correlated " ++ operation.messageType ++ " response has unexpected type " ++
    debugText messageType))

def dispatchProductInfoMessage (operation : ProductInfoOperation) (message : CastMessage)
    (pending : ProductInfoRequests) : Except ControlError (ProductInfoRequests × Answers) :=
  if message.sourceId ≠ receiverId ∨ message.destinationId ≠ senderId then .ok (pending,[]) else
    match message.payload with
    | .binary _ => .error (.protocolError ("non-JSON response on " ++ message.nameSpace))
    | .string payload =>
      match parsePayload fromStr message.nameSpace payload with
      | .error e => .error e
      | .ok value =>
        match jsonU32 value operation.requestIdField with
        | none => .ok (pending,[])
        | some requestId => .ok (pending.settleIf requestId (fun asked => asked = operation)
            fun _ => productInfoResponse operation value)

structure Tables where
  receiver : ReceiverRequests
  productInfo : ProductInfoRequests
  offers : Offers
  knownApps : KnownApps

structure Dispatched where
  tables : Tables
  answers : Answers
  events : List ControlEvent

def dispatchReceiver (value : Json) (source : String) (t : Tables) : Except ControlError Dispatched :=
  let messageType := (jsonMessageType value).getD ""
  if source ≠ receiverId then .ok ⟨t,[],[]⟩ else
    if messageType = "RECEIVER_STATUS" then
      match parseReceiverStatus value with
      | .error e => .error e
      | .ok status =>
        let published := publishReceiverStatus status t.knownApps
        let completed := completeReceiverStatus value t.receiver
        .ok ⟨{t with receiver := completed.1, knownApps := published.1},completed.2,published.2⟩
    else if messageType = "GET_APP_AVAILABILITY" then
      let completed := completeReceiverRequest value t.receiver fun operation =>
        match operation with
        | .availability _ => true
        | _ => false
      .ok ⟨{t with receiver := completed.1},completed.2,[]⟩
    else if messageType = "LAUNCH_ERROR" ∨ messageType = "INVALID_REQUEST" then
      let failed := failReceiverRequest value t.receiver (receiverErrorDescription value messageType)
      .ok ⟨{t with receiver := failed.1},failed.2,[]⟩
    else .ok ⟨t,[],[]⟩

def dispatchWebrtc (value : Json) (source : String) (t : Tables) : Dispatched :=
  let messageType := (jsonMessageType value).getD ""
  if messageType = "ANSWER" then
    let completed := completeOffer value source t.offers
    ⟨{t with offers := completed.1},completed.2,[]⟩
  else if messageType = "INVALID_REQUEST" then
    let failed := failOffer value source t.offers (receiverErrorDescription value messageType)
    ⟨{t with offers := failed.1},failed.2,[]⟩
  else ⟨t,[],[]⟩

def dispatchJsonMessage (message : CastMessage) (t : Tables) : Except ControlError Dispatched :=
  if message.nameSpace ≠ nsReceiver ∧ message.nameSpace ≠ nsWebrtc then .ok ⟨t,[],[]⟩ else
    match message.payload with
    | .binary _ => .ok ⟨t,[],[]⟩
    | .string payload =>
      match parsePayload fromStr message.nameSpace payload with
      | .error e => .error e
      | .ok value =>
        if message.nameSpace = nsReceiver then dispatchReceiver value message.sourceId t
        else .ok (dispatchWebrtc value message.sourceId t)

def dispatch (message : CastMessage) (t : Tables) : Except ControlError Dispatched :=
  match ProductInfoOperation.fromNamespace message.nameSpace with
  | some operation =>
    match dispatchProductInfoMessage fromStr operation message t.productInfo with
    | .error e => .error e
    | .ok dispatched => .ok ⟨{t with productInfo := dispatched.1},dispatched.2,[]⟩
  | none => dispatchJsonMessage fromStr message t

end Chromiacast
