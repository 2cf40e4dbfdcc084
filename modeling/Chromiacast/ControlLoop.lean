import Chromiacast.Basis.Machine
import Chromiacast.ControlMessages

/-! The control loop. One turn takes a message, a command or a heartbeat; going round,
the loop drops the requests whose callers have gone, and at its end it fails whatever
still waits. What the transport answers to a write comes with the input of the turn. -/
namespace Chromiacast
open Basis

def heartbeatTimeout : Nat := 15*1000000000

structure Outgoing where
  destination : String
  nameSpace : String
  payload : Json

/- A map that holds every id leaves the source's loop running for ever. One candidate may be
zero and each pending id can stand in the way of one more. -/
def allocateIdFrom {τ : Type} (pending : Requests UInt32 τ) : Nat → UInt32 → Option (UInt32 × UInt32)
  | 0,_ => none
  | rounds+1,candidate =>
    let next := max (candidate+1) 1
    if candidate ≠ 0 ∧ candidate ∉ pending then some (candidate,next) else allocateIdFrom pending rounds next

def allocateId {τ : Type} (next : UInt32) (pending : Requests UInt32 τ) : Option (UInt32 × UInt32) :=
  allocateIdFrom pending (pending.keys.length+2) next

def ReceiverOperation.payload (requestId : UInt32) : ReceiverOperation → List (String × Json)
  | availability appId => [("type",.string "GET_APP_AVAILABILITY"),("appId",.array [.string appId]),
      ("requestId",.ofU32 requestId)]
  | launch appId => [("type",.string "LAUNCH"),("appId",.string appId),("requestId",.ofU32 requestId)]
  | status => [("type",.string "GET_STATUS"),("requestId",.ofU32 requestId)]
  -- these two always come with a payload of their own
  | setVolume => []
  | stop => []

inductive ControlCommand where
  | receiverRequest (operation : ReceiverOperation) (payload : Option (List (String × Json)))
      (custom : payload = none → operation ≠ .setVolume ∧ operation ≠ .stop)
  | productInfoRequest (operation : ProductInfoOperation)
  | sendOffer (destination : String) (offer : Json)
  | sendFire (nameSpace destination : String) (payload : Json)
  | close

structure ControlLoop where
  nextRequestId : UInt32
  nextProductInfoRequestId : UInt32
  nextSequenceNumber : UInt32
  tables : Tables
  lastHeartbeat : Nat

def ControlLoop.new (now : Nat) : ControlLoop := ⟨1,1,1,⟨∅,∅,∅,∅⟩,now⟩

structure Allocation where
  id : UInt32
  pending : List UInt32
  deriving DecidableEq, Repr

abbrev Exit := Except ControlError Unit × ControlCloseReason

structure Turned where
  loop : ControlLoop
  answers : Answers := []
  events : List ControlEvent := []
  written : List Outgoing := []
  allocated : Option Allocation := none
  fired : Option (Except ControlError Unit) := none
  exit : Option Exit := none

def exitError (detail : String) : Exit := (.error (.connectionFailed detail),.error detail)

/- A write that fails ends the loop. -/
def Turned.write (t : Turned) (message : Outgoing) (label : String) (failure : Option String) : Turned :=
  match failure with
  | none => {t with written := t.written ++ [message]}
  | some error => {t with exit := some (exitError (label ++ error))}

def writeAll : List Outgoing → (Nat → Option String) → Nat → List Outgoing × Option String
  | [],_,_ => ([],none)
  | message::rest,failure,k =>
    match failure k with
    | some error => ([],some error)
    | none => (message::(writeAll rest failure (k+1)).1,(writeAll rest failure (k+1)).2)

def teardownOf (app : CastApp) : List Outgoing :=
  ⟨app.transportId,nsConnection,.object [("type",.string "CLOSE")]⟩ ::
    if app.sessionId = "" then [] else
      [⟨receiverId,nsReceiver,.object [("type",.string "STOP"),("sessionId",.string app.sessionId),("requestId",.ofU32 0)]⟩]

def sendTeardown (knownApps : KnownApps) (failure : Nat → Option String) : List Outgoing × Option String :=
  writeAll ((knownApps.entries.flatMap fun e => teardownOf e.2) ++
    [⟨receiverId,nsConnection,.object [("type",.string "CLOSE")]⟩]) failure 0

def teardownExit : Option String → Exit
  | none => (.ok (),.requested)
  | some error => exitError ("send Cast teardown: " ++ error)

namespace ControlLoop
variable (fromStr : String → Except String Json)

def onHeartbeat (s : ControlLoop) (message : CastMessage) (now : Nat) (failure : Option String) : Turned :=
  let isPing := messageIsType fromStr message "PING"
  let isPong := messageIsType fromStr message "PONG"
  let s := if isPing || isPong then {s with lastHeartbeat := now} else s
  if isPing then
    Turned.write ⟨s,[],[],[],none,none,none⟩ ⟨message.sourceId,nsHeartbeat,.object [("type",.string "PONG")]⟩
      "send heartbeat PONG: " failure
  else {loop := s}

def onClose (s : ControlLoop) (source : String) : Turned :=
  if source = receiverId then
    {loop := s, exit := some (.error (.connectionFailed "receiver closed the platform connection"),.peerClosed)}
  else
    let stopped := (s.tables.knownApps.lookup source).map ControlEvent.applicationStopped
    let failed := failOffersForDestination s.tables.offers source "application transport closed"
    {loop := {s with tables := {s.tables with offers := failed.1, knownApps := s.tables.knownApps.erase source}},
     answers := failed.2, events := stopped.toList}

def onMessage (s : ControlLoop) (message : CastMessage) (now : Nat) (failure : Option String) : Turned :=
  if message.nameSpace = nsHeartbeat then s.onHeartbeat fromStr message now failure else
    if message.nameSpace = nsConnection ∧ messageIsType fromStr message "CLOSE" then s.onClose message.sourceId else
      match dispatch fromStr message s.tables with
      | .error e => {loop := s, exit := some (.error e,.error e.display)}
      | .ok d => {loop := {s with tables := d.tables}, answers := d.answers, events := d.events}

def onReceiverRequest (s : ControlLoop) (operation : ReceiverOperation) (payload : Option (List (String × Json)))
    (sender : Nat) (failure : Option String) : Option Turned := do
  let (requestId,next) ← allocateId s.nextRequestId s.tables.receiver
  let fields := Json.setField "requestId" (.ofU32 requestId) (payload.getD (operation.payload requestId))
  let receiver := s.tables.receiver.insert requestId ⟨operation,sender⟩
  some (Turned.write ⟨{s with nextRequestId := next, tables := {s.tables with receiver := receiver}},[],[],[],
    some ⟨requestId,s.tables.receiver.keys⟩,none,none⟩ ⟨receiverId,nsReceiver,.object fields⟩
    "send receiver request: " failure)

def onProductInfoRequest (s : ControlLoop) (operation : ProductInfoOperation) (sender : Nat) (failure : Option String) :
    Option Turned := do
  let (requestId,next) ← allocateId s.nextProductInfoRequestId s.tables.productInfo
  let fields := [("type",Json.string operation.messageType),(operation.requestIdField,.ofU32 requestId)]
  let productInfo := s.tables.productInfo.insert requestId ⟨operation,sender⟩
  some (Turned.write ⟨{s with nextProductInfoRequestId := next, tables := {s.tables with productInfo := productInfo}},
    [],[],[],some ⟨requestId,s.tables.productInfo.keys⟩,none,none⟩ ⟨receiverId,operation.nameSpace,.object fields⟩
    "send product-info request: " failure)

def onOffer (s : ControlLoop) (destination : String) (offer : Json) (sender : Nat) (failure : Option String) :
    Option Turned := do
  let (sequenceNumber,next) ← allocateId s.nextSequenceNumber s.tables.offers
  let fields := [("type",Json.string "OFFER"),("seqNum",.ofU32 sequenceNumber),("offer",offer)]
  let offers := s.tables.offers.insert sequenceNumber ⟨destination,sender⟩
  some (Turned.write ⟨{s with nextSequenceNumber := next, tables := {s.tables with offers := offers}},[],[],[],
    some ⟨sequenceNumber,s.tables.offers.keys⟩,none,none⟩ ⟨destination,nsWebrtc,.object fields⟩
    "send streaming OFFER: " failure)

def onFire (s : ControlLoop) (message : Outgoing) (failure : Option String) : Turned :=
  match failure with
  | none => {loop := s, written := [message], fired := some (.ok ())}
  | some error =>
    let detail := "send Cast message: " ++ error
    {loop := s, fired := some (.error (.connectionFailed detail)), exit := some (exitError detail)}

def onShutdown (s : ControlLoop) (failure : Nat → Option String) : Turned :=
  let teardown := sendTeardown s.tables.knownApps failure
  {loop := s, written := teardown.1, exit := some (teardownExit teardown.2)}

def onCommand (s : ControlLoop) (command : ControlCommand) (sender : Nat) (failure : Nat → Option String) :
    Option Turned :=
  match command with
  | .receiverRequest operation payload _ => s.onReceiverRequest operation payload sender (failure 0)
  | .productInfoRequest operation => s.onProductInfoRequest operation sender (failure 0)
  | .sendOffer destination offer => s.onOffer destination offer sender (failure 0)
  | .sendFire nameSpace destination payload => some (s.onFire ⟨destination,nameSpace,payload⟩ (failure 0))
  | .close => some (s.onShutdown failure)

def onTick (s : ControlLoop) (now : Nat) (failure : Option String) : Turned :=
  if heartbeatTimeout ≤ now-s.lastHeartbeat then
    {loop := s, exit := some (.error (.connectionFailed "receiver heartbeat timed out"),.heartbeatTimeout)}
  else Turned.write ⟨s,[],[],[],none,none,none⟩ ⟨receiverId,nsHeartbeat,.object [("type",.string "PING")]⟩
    "send heartbeat PING: " failure

end ControlLoop

inductive ControlInput where
  | message (message : CastMessage) (now : Nat) (failure : Option String)
  | endOfStream
  | readError (error : String)
  | command (command : ControlCommand) (failure : Nat → Option String)
  | commandsClosed (failure : Nat → Option String)
  | tick (now : Nat) (failure : Option String)

def ControlLoop.turn (fromStr : String → Except String Json) (s : ControlLoop) (sender : Nat) :
    ControlInput → Option Turned
  | .message message now failure => some (s.onMessage fromStr message now failure)
  | .endOfStream => some {loop := s, exit := some (.error (.connectionFailed "receiver closed the TLS stream"),.peerClosed)}
  | .readError error => some {loop := s, exit := some (exitError ("read Cast message: " ++ error))}
  | .command command failure => s.onCommand command sender failure
  | .commandsClosed failure => some (s.onShutdown failure)
  | .tick now failure => some (s.onTick now failure)

def Tables.prune (t : Tables) (closed : Nat → Bool) : Tables :=
  {t with receiver := t.receiver.retain fun request => !closed request.responseSender,
          productInfo := t.productInfo.retain fun request => !closed request.responseSender,
          offers := t.offers.retain fun request => !closed request.responseSender}

def Tables.senders (t : Tables) : List Nat := t.receiver.senders ++ t.productInfo.senders ++ t.offers.senders

def failureDetail : Except ControlError Unit → String
  | .ok _ => "control channel closed"
  | .error e => e.display

def failAllPending (t : Tables) (detail : String) : Tables × Answers :=
  ({t with receiver := ∅, productInfo := ∅, offers := ∅},
    t.senders.map fun sender => (sender,.error (.connectionFailed detail)))

inductive Fate where
  | answered (response : Response)
  | failed (response : Response)
  | abandoned

inductive Phase where
  | running
  | spinning
  | exited (result : Except ControlError Unit)

structure ControlRun where
  loop : ControlLoop
  phase : Phase
  issued : Nat
  closed : List Nat

structure ControlOutput where
  fates : List (Nat × Fate) := []
  events : List ControlEvent := []
  written : List Outgoing := []
  allocated : Option Allocation := none
  fired : Option (Except ControlError Unit) := none

inductive ControlAction where
  | abandon (sender : Nat)
  | take (input : ControlInput)

namespace ControlRun
variable (fromStr : String → Except String Json)

def new (now : Nat) : ControlRun := ⟨.new now,.running,0,[]⟩

def finish (w : ControlRun) (t : Turned) : ControlRun × ControlOutput :=
  let issued := if t.allocated.isSome then w.issued+1 else w.issued
  let answered := t.answers.map fun answer => (answer.1,Fate.answered answer.2)
  match t.exit with
  | none =>
    let gone := t.loop.tables.senders.filter w.closed.contains
    (⟨{t.loop with tables := t.loop.tables.prune w.closed.contains},.running,issued,w.closed⟩,
      ⟨answered ++ gone.map (fun sender => (sender,Fate.abandoned)),t.events,t.written,t.allocated,t.fired⟩)
  | some (result,reason) =>
    let failed := failAllPending t.loop.tables (failureDetail result)
    (⟨{t.loop with tables := failed.1},.exited result,issued,w.closed⟩,
      ⟨answered ++ failed.2.map (fun answer => (answer.1,Fate.failed answer.2)),t.events ++ [.closed reason],
        t.written,t.allocated,t.fired⟩)

def step (w : ControlRun) : ControlAction → ControlRun × ControlOutput
  | .abandon sender => ({w with closed := sender::w.closed},{})
  | .take input =>
    match w.phase with
    | .running =>
      match w.loop.turn fromStr w.issued input with
      | none => ({w with phase := .spinning},{})
      | some t => w.finish t
    | _ => (w,{})

def run (now : Nat) (actions : List ControlAction) : ControlRun × List ControlOutput :=
  Machine.run (step fromStr) (new now) actions

end ControlRun

end Chromiacast
