import Chromiacast.ControlLifecycle
import Chromiacast.ControlRouting

/-! Where the replies of a run come from. Whatever is handed to a caller as a success was sent by the
party the request was for, after the request and in the form that the request asks for. -/
namespace Chromiacast
open Basis

inductive Asked where
  | receiver (operation : ReceiverOperation) (id : UInt32)
  | productInfo (operation : ProductInfoOperation) (id : UInt32)
  | offer (destination : String) (id : UInt32)
  deriving DecidableEq, Repr

def Tables.Holds (t : Tables) (sender : Nat) : Asked → Prop
  | .receiver operation id => t.receiver.lookup id = some ⟨operation,sender⟩
  | .productInfo operation id => t.productInfo.lookup id = some ⟨operation,sender⟩
  | .offer destination id => t.offers.lookup id = some ⟨destination,sender⟩

/- A status may also complete a launch under another id, or under none. -/
inductive SuitsReceiver (value : Json) (operation : ReceiverOperation) (id : UInt32) : Prop
  | status (type : jsonMessageType value = some "RECEIVER_STATUS") (named : jsonU32 value "requestId" = some id)
      (completes : statusCompletes value operation)
  | listed (type : jsonMessageType value = some "RECEIVER_STATUS") (launched : launchListed value operation)
  | availability (type : jsonMessageType value = some "GET_APP_AVAILABILITY")
      (named : jsonU32 value "requestId" = some id) (asked : ∃ appId, operation = .availability appId)

def Asked.Suits (message : CastMessage) (value : Json) : Asked → Prop
  | .receiver operation id => message.nameSpace = nsReceiver ∧ message.sourceId = receiverId ∧
      SuitsReceiver value operation id
  | .productInfo operation id => message.nameSpace = operation.nameSpace ∧ message.sourceId = receiverId ∧
      message.destinationId = senderId ∧ jsonU32 value operation.requestIdField = some id ∧
      (operation.acceptsResponseType ((jsonMessageType value).getD "") ∨ jsonMessageType value = some "INVALID_REQUEST")
  | .offer destination id => message.nameSpace = nsWebrtc ∧ message.sourceId = destination ∧
      jsonMessageType value = some "ANSWER" ∧ jsonU32 value "seqNum" = some id

section Dispatch
variable {fromStr : String → Except String Json} {message : CastMessage} {t : Tables} {d : Dispatched}

structure Replies (fromStr : String → Except String Json) (message : CastMessage) (t : Tables) (d : Dispatched) :
    Prop where
  kept : ∀ sender asked, d.tables.Holds sender asked → t.Holds sender asked
  answers : ∀ sender value, (sender,.ok value) ∈ d.answers →
    ∃ asked, t.Holds sender asked ∧ Carries fromStr message value ∧ asked.Suits message value

theorem repliesNone {apps : KnownApps} {events : List ControlEvent} :
    Replies fromStr message t ⟨{t with knownApps := apps},[],events⟩ :=
  ⟨fun _ asked held => (by cases asked <;> exact held),fun _ _ member => (by cases member)⟩

theorem receiverReplies {value : Json} {result : ReceiverRequests × Answers} {apps : KnownApps}
    {events : List ControlEvent} (carries : Carries fromStr message value) (nameSpace : message.nameSpace = nsReceiver)
    (source : message.sourceId = receiverId)
    (settled : Requests.Settled t.receiver (fun id operation reply => ∀ given, reply = .ok given → given = value ∧
      SuitsReceiver value operation id) result) :
    Replies fromStr message t ⟨{t with receiver := result.1, knownApps := apps},result.2,events⟩ := by
  refine ⟨fun sender asked held => ?_,fun sender given member => ?_⟩
  · cases asked with
    | receiver operation id => exact settled.kept id _ held
    | productInfo operation id => exact held
    | offer destination id => exact held
  · obtain ⟨id,operation,found,suited⟩ := settled.answers sender _ member
    obtain ⟨rfl,suits⟩ := suited given rfl
    exact ⟨.receiver operation id,found,carries,nameSpace,source,suits⟩

theorem offersReplies {value : Json} {result : Offers × Answers} (carries : Carries fromStr message value)
    (nameSpace : message.nameSpace = nsWebrtc)
    (settled : Requests.Settled t.offers (fun id destination reply => ∀ given, reply = .ok given → given = value ∧
      message.sourceId = destination ∧ jsonMessageType value = some "ANSWER" ∧ jsonU32 value "seqNum" = some id) result) :
    Replies fromStr message t ⟨{t with offers := result.1},result.2,[]⟩ := by
  refine ⟨fun sender asked held => ?_,fun sender given member => ?_⟩
  · cases asked with
    | receiver operation id => exact held
    | productInfo operation id => exact held
    | offer destination id => exact settled.kept id _ held
  · obtain ⟨id,destination,found,suited⟩ := settled.answers sender _ member
    obtain ⟨rfl,suits⟩ := suited given rfl
    exact ⟨.offer destination id,found,carries,nameSpace,suits⟩

theorem completeReceiverStatusSettled {value : Json} (type : jsonMessageType value = some "RECEIVER_STATUS")
    (pending : ReceiverRequests) :
    Requests.Settled pending (fun id operation reply => ∀ given, reply = .ok given → given = value ∧
      SuitsReceiver value operation id) (completeReceiverStatus value pending) := by
  unfold completeReceiverStatus
  split
  · rename_i id named
    obtain ⟨carried,completes⟩ := Option.filter_eq_some_iff.mp named
    refine Requests.settleSettled fun request found given same => ⟨(Except.ok.inj same).symm,.status type carried ?_⟩
    simpa [found] using completes
  · refine Requests.settleAllSettled fun id listed request found given same =>
      ⟨(Except.ok.inj same).symm,.listed type ?_⟩
    obtain ⟨other,again,launched⟩ := Requests.memMatching.mp listed
    cases Option.some.inj (found.symm.trans again)
    exact launched

theorem dispatchReceiverReplies {value : Json} (carries : Carries fromStr message value)
    (nameSpace : message.nameSpace = nsReceiver) (handled : dispatchReceiver value message.sourceId t = .ok d) :
    Replies fromStr message t d := by
  unfold dispatchReceiver at handled
  simp only [typeIs (by decide : "RECEIVER_STATUS" ≠ ""),typeIs (by decide : "GET_APP_AVAILABILITY" ≠ "")] at handled
  split_ifs at handled with foreign status availability failure
  · cases Except.ok.inj handled
    exact repliesNone
  · split at handled
    · cases handled
    · cases Except.ok.inj handled
      exact receiverReplies carries nameSpace (not_not.mp foreign) (completeReceiverStatusSettled status t.receiver)
  · cases Except.ok.inj handled
    refine receiverReplies carries nameSpace (not_not.mp foreign) ?_
    unfold completeReceiverRequest
    split
    · exact Requests.settledNone
    · rename_i id named
      refine Requests.settleIfSettled fun operation asked given same =>
        ⟨(Except.ok.inj same).symm,.availability availability named ?_⟩
      cases operation with
      | availability appId => exact ⟨appId,rfl⟩
      | launch appId => cases asked
      | setVolume => cases asked
      | status => cases asked
      | stop => cases asked
  · cases Except.ok.inj handled
    refine receiverReplies carries nameSpace (not_not.mp foreign) ?_
    unfold failReceiverRequest
    split
    · exact Requests.settledNone
    · refine Requests.settleSettled fun request _ given same => ?_
      cases subject : request.subject <;> simp [subject] at same
  · cases Except.ok.inj handled
    exact repliesNone

theorem dispatchWebrtcReplies {value : Json} (carries : Carries fromStr message value)
    (nameSpace : message.nameSpace = nsWebrtc) :
    Replies fromStr message t (dispatchWebrtc value message.sourceId t) := by
  unfold dispatchWebrtc
  simp only [typeIs (by decide : "ANSWER" ≠ "")]
  split_ifs with answer refused
  · refine offersReplies carries nameSpace ?_
    unfold completeOffer
    split
    · exact Requests.settledNone
    · rename_i id named
      exact Requests.settleIfSettled fun destination asked given same =>
        ⟨(Except.ok.inj same).symm,(of_decide_eq_true asked).symm,answer,named⟩
  · refine offersReplies carries nameSpace ?_
    unfold failOffer
    split
    · exact Requests.settledNone
    · exact Requests.settleIfSettled fun destination _ given same => (by cases same)
  · exact repliesNone

theorem ProductInfoOperation.fromNamespaceOf {name : String} {operation : ProductInfoOperation}
    (found : fromNamespace name = some operation) : name = operation.nameSpace := by
  unfold fromNamespace at found
  split_ifs at found with discovery setup
  · cases Option.some.inj found
    exact discovery
  · cases Option.some.inj found
    exact setup

theorem parsedCarries {text nameSpace : String} {value : Json} (payload : message.payload = .string text)
    (parsed : parsePayload fromStr nameSpace text = .ok value) : Carries fromStr message value := by
  refine ⟨text,payload,?_⟩
  unfold parsePayload at parsed
  split at parsed
  · rename_i given read
    rw [read,Except.ok.inj parsed]
  · cases parsed

theorem productInfoReplies {operation : ProductInfoOperation} {result : ProductInfoRequests × Answers}
    (nameSpace : message.nameSpace = operation.nameSpace)
    (handled : dispatchProductInfoMessage fromStr operation message t.productInfo = .ok result) :
    Replies fromStr message t ⟨{t with productInfo := result.1},result.2,[]⟩ := by
  unfold dispatchProductInfoMessage at handled
  split_ifs at handled with foreign
  · cases Except.ok.inj handled
    exact repliesNone
  · obtain ⟨source,destination⟩ := not_or.mp foreign
    split at handled
    · cases handled
    · rename_i text payload
      split at handled
      · cases handled
      · rename_i value parsed
        split at handled
        · cases Except.ok.inj handled
          exact repliesNone
        · rename_i id named
          have settled : Requests.Settled t.productInfo (fun key asked reply => ∀ given, reply = .ok given →
              given = value ∧ Asked.Suits message value (.productInfo asked key)) result := by
            rw [← Except.ok.inj handled]
            refine Requests.settleIfSettled fun asked same given replied => ?_
            cases of_decide_eq_true same
            simp only [productInfoResponse] at replied
            split_ifs at replied with accepted
            refine ⟨(Except.ok.inj replied).symm,nameSpace,not_not.mp source,not_not.mp destination,named,?_⟩
            simpa [typeIs (by decide : "INVALID_REQUEST" ≠ "")] using accepted
          refine ⟨fun sender asked held => ?_,fun sender given member => ?_⟩
          · cases asked with
            | receiver operation id => exact held
            | productInfo operation id => exact settled.kept id _ held
            | offer destination id => exact held
          · obtain ⟨key,asked,found,suited⟩ := settled.answers sender _ member
            obtain ⟨rfl,suits⟩ := suited given rfl
            exact ⟨.productInfo asked key,found,parsedCarries payload parsed,suits⟩

theorem dispatchReplies (handled : dispatch fromStr message t = .ok d) : Replies fromStr message t d := by
  unfold dispatch at handled
  split at handled
  · rename_i operation namesOperation
    split at handled
    · cases handled
    · rename_i result dispatched
      cases Except.ok.inj handled
      exact productInfoReplies (ProductInfoOperation.fromNamespaceOf namesOperation) dispatched
  · unfold dispatchJsonMessage at handled
    split at handled
    · cases Except.ok.inj handled
      exact repliesNone
    · rename_i known
      split at handled
      · cases Except.ok.inj handled
        exact repliesNone
      · rename_i text payload
        split at handled
        · cases handled
        · rename_i value parsed
          have carries : Carries fromStr message value := parsedCarries payload parsed
          split at handled
          · rename_i receiver
            exact dispatchReceiverReplies carries receiver handled
          · rename_i other
            cases Except.ok.inj handled
            exact dispatchWebrtcReplies carries (not_not.mp fun webrtc => known ⟨other,webrtc⟩)

end Dispatch

def ControlCommand.asked (id : UInt32) : ControlCommand → Option Asked
  | .receiverRequest operation _ _ => some (.receiver operation id)
  | .productInfoRequest operation => some (.productInfo operation id)
  | .sendOffer destination _ => some (.offer destination id)
  | .sendFire _ _ _ => none
  | .close => none

def ControlCommand.request (id : UInt32) : ControlCommand → List Outgoing
  | .receiverRequest operation payload _ =>
    [⟨receiverId,nsReceiver,.object (Json.setField "requestId" (.ofU32 id) (payload.getD (operation.payload id)))⟩]
  | .productInfoRequest operation =>
    [⟨receiverId,operation.nameSpace,
      .object [("type",.string operation.messageType),(operation.requestIdField,.ofU32 id)]⟩]
  | .sendOffer destination offer =>
    [⟨destination,nsWebrtc,.object [("type",.string "OFFER"),("seqNum",.ofU32 id),("offer",offer)]⟩]
  | .sendFire _ _ _ => []
  | .close => []

structure ControlRun.Enters (w : ControlRun) (action : ControlAction) (out : ControlOutput) (sender : Nat)
    (asked : Asked) : Prop where
  sender : sender = w.issued
  sent : ∃ command failure allocation, action = .take (.command command failure) ∧ out.allocated = some allocation ∧
    command.asked allocation.id = some asked ∧ out.written = command.request allocation.id

structure Sourced (fromStr : String → Except String Json) (w : ControlRun) (action : ControlAction) (after : ControlRun)
    (out : ControlOutput) : Prop where
  held : ∀ sender asked, after.loop.tables.Holds sender asked →
    w.loop.tables.Holds sender asked ∨ w.Enters action out sender asked
  answers : ∀ sender value, (sender,.answered (.ok value)) ∈ out.fates → ∃ asked message now failure,
    w.loop.tables.Holds sender asked ∧ action = .take (.message message now failure) ∧
      Carries fromStr message value ∧ asked.Suits message value
  failures : ∀ sender response, (sender,.failed response) ∈ out.fates → ∃ e, response = .error e

section Turns
variable {fromStr : String → Except String Json} {s : ControlLoop} {sender : Nat} {input : ControlInput} {t : Turned}

structure TurnSourced (fromStr : String → Except String Json) (s : ControlLoop) (sender : Nat) (input : ControlInput)
    (t : Turned) : Prop where
  held : ∀ n asked, t.loop.tables.Holds n asked → s.tables.Holds n asked ∨
    n = sender ∧ ∃ command failure allocation, input = .command command failure ∧ t.allocated = some allocation ∧
      command.asked allocation.id = some asked ∧ (t.exit = none → t.written = command.request allocation.id)
  answers : ∀ n value, (n,.ok value) ∈ t.answers → ∃ asked message now failure, s.tables.Holds n asked ∧
    input = .message message now failure ∧ Carries fromStr message value ∧ asked.Suits message value

theorem sourcedSame (tables : t.loop.tables = s.tables) (silent : t.answers = []) :
    TurnSourced fromStr s sender input t := by
  refine ⟨fun n asked held => .inl ?_,fun n value member => ?_⟩
  · rwa [tables] at held
  · rw [silent] at member
    cases member

theorem sourcedWrite {loop : ControlLoop} {message : Outgoing} {label : String} {failure : Option String}
    (tables : loop.tables = s.tables) :
    TurnSourced fromStr s sender input (Turned.write ⟨loop,[],[],[],none,none,none⟩ message label failure) := by
  cases failure <;> exact sourcedSame tables rfl

theorem insertedLookup {τ : Type} {m : Requests UInt32 τ} {id key : UInt32} {entered request : Pending τ}
    (found : (m.insert id entered).lookup key = some request) :
    m.lookup key = some request ∨ key = id ∧ request = entered := by
  by_cases same : key = id
  · subst same
    rw [AList.lookup_insert] at found
    exact .inr ⟨rfl,(Option.some.inj found).symm⟩
  · rw [AList.lookup_insert_ne same] at found
    exact .inl found

theorem sourcedRequest {command : ControlCommand} {failures : Nat → Option String} {failure : Option String}
    {loop : ControlLoop} {id : UInt32} {pending : List UInt32} {message : Outgoing} {label : String}
    (entered : ∀ n asked, loop.tables.Holds n asked → s.tables.Holds n asked ∨ n = sender ∧ command.asked id = some asked)
    (request : command.request id = [message]) :
    TurnSourced fromStr s sender (.command command failures)
      (Turned.write ⟨loop,[],[],[],some ⟨id,pending⟩,none,none⟩ message label failure) := by
  refine ⟨fun n asked held => ?_,fun n value member => ?_⟩
  · have before : loop.tables.Holds n asked := by
      cases failure <;> exact held
    rcases entered n asked before with old | ⟨rfl,new⟩
    · exact .inl old
    · refine .inr ⟨rfl,command,failures,⟨id,pending⟩,rfl,?_,new,fun continues => ?_⟩
      · cases failure <;> rfl
      · cases failure with
        | none => exact request.symm
        | some error => cases continues
  · rw [writeAnswers] at member
    cases member

theorem onCloseSourced (source : String) : TurnSourced fromStr s sender input (s.onClose source) := by
  unfold ControlLoop.onClose
  split
  · exact sourcedSame rfl rfl
  · have settled : Requests.Settled s.tables.offers (fun _ _ reply => ∃ e, reply = .error e)
        (failOffersForDestination s.tables.offers source "application transport closed") :=
      Requests.settleAllSettled fun _ _ _ _ => ⟨_,rfl⟩
    refine ⟨fun n asked held => .inl ?_,fun n value member => ?_⟩
    · cases asked with
      | receiver operation id => exact held
      | productInfo operation id => exact held
      | offer destination id => exact settled.kept id _ held
    · obtain ⟨_,_,_,_,same⟩ := settled.answers n _ member
      cases same

theorem onMessageSourced (message : CastMessage) (now : Nat) (failure : Option String) :
    TurnSourced fromStr s sender (.message message now failure) (s.onMessage fromStr message now failure) := by
  unfold ControlLoop.onMessage
  split
  · unfold ControlLoop.onHeartbeat
    have tables := beatTables s now (messageIsType fromStr message "PING" || messageIsType fromStr message "PONG")
    simp only
    split
    · exact sourcedWrite tables
    · exact sourcedSame tables rfl
  · split
    · exact onCloseSourced message.sourceId
    · split
      · exact sourcedSame rfl rfl
      · rename_i d handled
        have replies := dispatchReplies handled
        refine ⟨fun n asked held => .inl (replies.kept n asked held),fun n value member => ?_⟩
        obtain ⟨asked,held,carries,suits⟩ := replies.answers n value member
        exact ⟨asked,message,now,failure,held,rfl,carries,suits⟩

theorem onCommandSourced {command : ControlCommand} {failure : Nat → Option String}
    (turned : s.onCommand command sender failure = some t) : TurnSourced fromStr s sender (.command command failure) t := by
  cases command with
  | receiverRequest operation payload custom =>
    obtain ⟨⟨id,next⟩,_,rest⟩ := Option.bind_eq_some_iff.mp turned
    cases Option.some.inj rest
    refine sourcedRequest (fun n asked held => ?_) rfl
    cases asked with
    | receiver other key =>
      rcases insertedLookup held with old | ⟨rfl,same⟩
      · exact .inl old
      · cases same
        exact .inr ⟨rfl,rfl⟩
    | productInfo other key => exact .inl held
    | offer destination key => exact .inl held
  | productInfoRequest operation =>
    obtain ⟨⟨id,next⟩,_,rest⟩ := Option.bind_eq_some_iff.mp turned
    cases Option.some.inj rest
    refine sourcedRequest (fun n asked held => ?_) rfl
    cases asked with
    | receiver other key => exact .inl held
    | productInfo other key =>
      rcases insertedLookup held with old | ⟨rfl,same⟩
      · exact .inl old
      · cases same
        exact .inr ⟨rfl,rfl⟩
    | offer destination key => exact .inl held
  | sendOffer destination offer =>
    obtain ⟨⟨id,next⟩,_,rest⟩ := Option.bind_eq_some_iff.mp turned
    cases Option.some.inj rest
    refine sourcedRequest (fun n asked held => ?_) rfl
    cases asked with
    | receiver other key => exact .inl held
    | productInfo other key => exact .inl held
    | offer other key =>
      rcases insertedLookup held with old | ⟨rfl,same⟩
      · exact .inl old
      · cases same
        exact .inr ⟨rfl,rfl⟩
  | sendFire nameSpace destination payload =>
    cases Option.some.inj turned
    cases sent : failure 0 <;> exact sourcedSame rfl rfl
  | close =>
    cases Option.some.inj turned
    exact sourcedSame rfl rfl

theorem turnSourced (turned : s.turn fromStr sender input = some t) : TurnSourced fromStr s sender input t := by
  cases input with
  | message message now failure =>
    cases Option.some.inj turned
    exact onMessageSourced message now failure
  | endOfStream =>
    cases Option.some.inj turned
    exact sourcedSame rfl rfl
  | readError error =>
    cases Option.some.inj turned
    exact sourcedSame rfl rfl
  | command command failure => exact onCommandSourced turned
  | commandsClosed failure =>
    cases Option.some.inj turned
    exact sourcedSame rfl rfl
  | tick now failure =>
    cases Option.some.inj turned
    unfold ControlLoop.onTick
    split
    · exact sourcedSame rfl rfl
    · exact sourcedWrite rfl

end Turns

section Steps
variable {fromStr : String → Except String Json} {w : ControlRun}

theorem pruneHolds {t : Tables} {closed : Nat → Bool} {sender : Nat} {asked : Asked}
    (held : (t.prune closed).Holds sender asked) : t.Holds sender asked := by
  cases asked with
  | receiver operation id => exact Requests.retainLookup held
  | productInfo operation id => exact Requests.retainLookup held
  | offer destination id => exact Requests.retainLookup held

theorem emptyHolds {apps : KnownApps} {sender : Nat} {asked : Asked} : ¬ Tables.Holds ⟨∅,∅,∅,apps⟩ sender asked := by
  cases asked <;> simp [Tables.Holds]

theorem finishSourced {input : ControlInput} {t : Turned} (sourced : TurnSourced fromStr w.loop w.issued input t) :
    Sourced fromStr w (.take input) (w.finish t).1 (w.finish t).2 := by
  have answered (sender : Nat) (value : Json)
      (member : (sender,Fate.answered (.ok value)) ∈ t.answers.map fun answer => (answer.1,Fate.answered answer.2)) :
      ∃ asked message now failure, w.loop.tables.Holds sender asked ∧
        ControlAction.take input = .take (.message message now failure) ∧ Carries fromStr message value ∧
        asked.Suits message value := by
    obtain ⟨answer,given,same⟩ := List.mem_map.mp member
    obtain ⟨rfl,reply⟩ := Prod.mk.inj same
    rw [← Prod.eta answer,Fate.answered.inj reply] at given
    obtain ⟨asked,message,now,failure,held,rfl,carries,suits⟩ := sourced.answers _ value given
    exact ⟨asked,message,now,failure,held,rfl,carries,suits⟩
  cases exit : t.exit with
  | none =>
    simp only [ControlRun.finish,exit]
    refine ⟨fun sender asked held => ?_,fun sender value member => ?_,fun sender response member => ?_⟩
    · rcases sourced.held sender asked (pruneHolds held) with old | ⟨rfl,command,failure,allocation,rfl,allocated,entered,sent⟩
      · exact .inl old
      · exact .inr ⟨rfl,command,failure,allocation,rfl,allocated,entered,sent exit⟩
    · rcases List.mem_append.mp member with given | dropped
      · exact answered sender value given
      · obtain ⟨_,_,same⟩ := List.mem_map.mp dropped
        cases same
    · rcases List.mem_append.mp member with given | dropped
      · obtain ⟨_,_,same⟩ := List.mem_map.mp given
        cases same
      · obtain ⟨_,_,same⟩ := List.mem_map.mp dropped
        cases same
  | some ended =>
    simp only [ControlRun.finish,exit]
    refine ⟨fun sender asked held => absurd held emptyHolds,fun sender value member => ?_,fun sender response member => ?_⟩
    · rcases List.mem_append.mp member with given | failed
      · exact answered sender value given
      · obtain ⟨_,_,same⟩ := List.mem_map.mp failed
        cases same
    · rcases List.mem_append.mp member with given | failed
      · obtain ⟨_,_,same⟩ := List.mem_map.mp given
        cases same
      · obtain ⟨answer,listed,same⟩ := List.mem_map.mp failed
        obtain ⟨_,_,rfl⟩ := List.mem_map.mp listed
        cases same
        exact ⟨_,rfl⟩

theorem idleSourced {action : ControlAction} {after : ControlRun} (loop : after.loop = w.loop) :
    Sourced fromStr w action after {} := by
  refine ⟨fun sender asked held => .inl ?_,fun _ _ member => (by cases member),fun _ _ member => (by cases member)⟩
  rwa [loop] at held

theorem stepSourced {action : ControlAction} {after : ControlRun} {out : ControlOutput}
    (taken : w.StepTaken fromStr action after out) : Sourced fromStr w action after out := by
  cases taken with
  | abandoned sender => exact idleSourced rfl
  | turned input t _ turned => exact finishSourced (turnSourced turned)
  | spins input => exact idleSourced rfl
  | ended input _ => exact idleSourced rfl

end Steps

namespace ControlRun
variable (fromStr : String → Except String Json) (now : Nat) (actions : List ControlAction)

def before (i : Nat) : ControlRun := (run fromStr now (actions.take i)).1

def output (i : Nat) : ControlOutput :=
  (actions[i]?).elim {} fun action => ((before fromStr now actions i).step fromStr action).2

theorem beforeSucc {i : Nat} {action : ControlAction} (taken : actions[i]? = some action) :
    before fromStr now actions (i+1) = ((before fromStr now actions i).step fromStr action).1 := by
  have prefix' : actions.take (i+1) = actions.take i ++ [action] := by
    rw [List.take_add_one,taken]
    rfl
  rw [before,prefix',run,Machine.runSnoc]
  rfl

theorem beforeLast {i : Nat} (taken : actions[i]? = none) :
    before fromStr now actions (i+1) = before fromStr now actions i := by
  have long : actions.length ≤ i := List.getElem?_eq_none_iff.mp taken
  rw [before,before,List.take_of_length_le long,List.take_of_length_le (by omega)]

theorem heldEntered (i : Nat) {sender : Nat} {asked : Asked}
    (held : (before fromStr now actions i).loop.tables.Holds sender asked) :
    ∃ j < i, ∃ action, actions[j]? = some action ∧
      (before fromStr now actions j).Enters action (output fromStr now actions j) sender asked := by
  induction i with
  | zero => exact absurd held emptyHolds
  | succ i ih =>
    cases taken : actions[i]? with
    | none =>
      rw [beforeLast fromStr now actions taken] at held
      obtain ⟨j,earlier,entered⟩ := ih held
      exact ⟨j,by omega,entered⟩
    | some action =>
      rw [beforeSucc fromStr now actions taken] at held
      rcases (stepSourced (stepTaken fromStr (before fromStr now actions i) action)).held sender asked held with old | new
      · obtain ⟨j,earlier,entered⟩ := ih old
        exact ⟨j,by omega,entered⟩
      · refine ⟨i,by omega,action,taken,?_⟩
        rwa [output,taken]

end ControlRun

end Chromiacast
