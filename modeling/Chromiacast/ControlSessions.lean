import Chromiacast.ControlCalls

/-! Calls against the control loop. A call that succeeds has had its commands taken in order, and what
it returns was sent by the receiver in reply to them, whatever else went on in between. -/
namespace Chromiacast
open Basis

section Issued
variable {fromStr : String → Except String Json} {w after : ControlRun} {action : ControlAction} {out : ControlOutput}

theorem stepIssued (taken : w.StepTaken fromStr action after out) :
    after.issued = w.issued + if out.allocated.isSome then 1 else 0 := by
  cases taken with
  | abandoned sender => rfl
  | turned input t _ _ =>
    cases exit : t.exit <;> simp only [ControlRun.finish,exit] <;> split <;> rfl
  | spins input => rfl
  | ended input _ => rfl

end Issued

namespace ControlRun
variable (fromStr : String → Except String Json) (now : Nat) (actions : List ControlAction)

theorem issuedSucc (i : Nat) : (before fromStr now actions (i+1)).issued =
    (before fromStr now actions i).issued + if (output fromStr now actions i).allocated.isSome then 1 else 0 := by
  cases taken : actions[i]? with
  | none =>
    rw [beforeLast fromStr now actions taken,output,taken]
    rfl
  | some action =>
    rw [beforeSucc fromStr now actions taken,output,taken]
    exact stepIssued (stepTaken fromStr _ action)

theorem issuedMono {i j : Nat} (later : i ≤ j) :
    (before fromStr now actions i).issued ≤ (before fromStr now actions j).issued := by
  induction j, later using Nat.le_induction with
  | base => exact le_refl _
  | succ j _ ih =>
    rw [issuedSucc]
    omega

theorem issuedOnce {i j : Nat} (first : (output fromStr now actions i).allocated.isSome)
    (second : (output fromStr now actions j).allocated.isSome)
    (same : (before fromStr now actions i).issued = (before fromStr now actions j).issued) : i = j := by
  have next (k : Nat) (made : (output fromStr now actions k).allocated.isSome) :
      (before fromStr now actions (k+1)).issued = (before fromStr now actions k).issued+1 := by
    rw [issuedSucc,if_pos made]
  rcases lt_trichotomy i j with less | equal | greater
  · have grown := issuedMono fromStr now actions less
    have made := next i first
    simp only [Nat.succ_eq_add_one] at grown
    omega
  · exact equal
  · have grown := issuedMono fromStr now actions greater
    have made := next j second
    simp only [Nat.succ_eq_add_one] at grown
    omega

def AnsweredAt (i l : Nat) (response : Response) : Prop :=
  (output fromStr now actions i).allocated.isSome ∧ ∃ j fate, i ≤ j ∧ l = j+1 ∧
    ((before fromStr now actions i).issued,fate) ∈ (output fromStr now actions j).fates ∧
    (fate = .answered response ∨ fate = .failed response)

def Told (i l : Nat) : (command : ControlCommand) → command.Reply → Prop
  | .receiverRequest _ _ _,response => AnsweredAt fromStr now actions i l response
  | .productInfoRequest _,response => AnsweredAt fromStr now actions i l response
  | .sendOffer _ _,response => AnsweredAt fromStr now actions i l response
  | .sendFire _ _ _,result => (output fromStr now actions i).fired = some result ∧ l = i+1
  | .close,_ => l = i+1

/- What a run may reply to a question that is put at some step or later. A command that is refused or
dropped finds the loop at its end; the wait for any other may run out of time. -/
def Serves (k : Nat) : (question : Question) → question.Reply → Nat → Prop
  | .command _,none,l => k ≤ l ∧ ∃ result, (before fromStr now actions l).phase = .exited result
  | .command _,some .dropped,l => k ≤ l ∧ ∃ result, (before fromStr now actions l).phase = .exited result
  | .command _,some .timedOut,l => k ≤ l
  | .command command,some (.value reply),l => ∃ i failure, k ≤ i ∧
      actions[i]? = some (.take (.command command failure)) ∧ (before fromStr now actions i).phase = .running ∧
      Told fromStr now actions i l command reply
  | .task,result,l => k ≤ l ∧ (before fromStr now actions l).phase = .exited result

structure Correlated (command : ControlCommand) (i j : Nat) (allocation : Allocation) (asked : Asked)
    (message : CastMessage) (value : Json) : Prop where
  order : i < j
  allocated : (output fromStr now actions i).allocated = some allocation
  entered : command.asked allocation.id = some asked
  written : (output fromStr now actions i).written = command.request allocation.id
  received : ∃ time failure, actions[j]? = some (.take (.message message time failure))
  carries : Carries fromStr message value
  suits : asked.Suits message value

theorem replyCorrelated {j sender : Nat} {value : Json}
    (answered : (sender,.answered (.ok value)) ∈ (output fromStr now actions j).fates) :
    ∃ i command failure allocation asked message, actions[i]? = some (.take (.command command failure)) ∧
      sender = (before fromStr now actions i).issued ∧
      Correlated fromStr now actions command i j allocation asked message value := by
  cases taken : actions[j]? with
  | none =>
    rw [output,taken] at answered
    cases answered
  | some action =>
    rw [output,taken] at answered
    obtain ⟨asked,message,time,late,held,rfl,carries,suits⟩ :=
      (stepSourced (stepTaken fromStr (before fromStr now actions j) action)).answers _ value answered
    obtain ⟨i,earlier,_,entered,⟨number,command,failure,allocation,rfl,allocated,named,written⟩⟩ :=
      heldEntered fromStr now actions j held
    exact ⟨i,command,failure,allocation,asked,message,entered,number,earlier,allocated,named,written,⟨time,late,taken⟩,
      carries,suits⟩

theorem answeredCorrelated {command : ControlCommand} {failure : Nat → Option String} {i l : Nat} {value : Json}
    (taken : actions[i]? = some (.take (.command command failure)))
    (answered : AnsweredAt fromStr now actions i l (.ok value)) :
    ∃ j allocation asked message, l = j+1 ∧ Correlated fromStr now actions command i j allocation asked message value := by
  obtain ⟨made,j,fate,_,rfl,member,given⟩ := answered
  rcases given with rfl | rfl
  · obtain ⟨h,other,failures,allocation,asked,message,entered,number,correlated⟩ :=
      replyCorrelated fromStr now actions member
    have once : i = h := issuedOnce fromStr now actions made (by rw [correlated.allocated]; rfl) number
    subst once
    cases Option.some.inj (taken.symm.trans entered)
    exact ⟨j,allocation,asked,message,rfl,correlated⟩
  · cases step : actions[j]? with
    | none =>
      rw [output,step] at member
      cases member
    | some action =>
      rw [output,step] at member
      obtain ⟨_,error⟩ := (stepSourced (stepTaken fromStr _ action)).failures _ _ member
      cases error

theorem answeredAlone {fromStr : String → Except String Json} {now : Nat} {actions : List ControlAction} {i j : Nat}
    {response : Response} (sender : Nat) (made : (output fromStr now actions i).allocated.isSome) (later : i ≤ j)
    (number : (before fromStr now actions i).issued = sender)
    (alone : (output fromStr now actions j).fates = [(sender,.answered response)]) :
    AnsweredAt fromStr now actions i (j+1) response := by
  refine ⟨made,j,.answered response,later,rfl,?_,.inl rfl⟩
  rw [alone,number]
  exact List.mem_singleton.mpr rfl

theorem firedWritten {nameSpace destination : String} {payload : Json} {failure : Nat → Option String} {i : Nat}
    (taken : actions[i]? = some (.take (.command (.sendFire nameSpace destination payload) failure)))
    (fired : (output fromStr now actions i).fired = some (.ok ())) :
    (output fromStr now actions i).written = [⟨destination,nameSpace,payload⟩] := by
  rw [output,taken] at fired ⊢
  simp only [Option.elim_some,step] at fired ⊢
  cases phase : (before fromStr now actions i).phase with
  | running =>
    simp only [phase,ControlLoop.turn,ControlLoop.onCommand,ControlLoop.onFire] at fired ⊢
    cases sent : failure 0 with
    | none =>
      simp only [sent] at fired ⊢
      rfl
    | some error =>
      simp only [sent,finish] at fired
      cases fired
  | spinning =>
    simp only [phase] at fired
    cases fired
  | exited result =>
    simp only [phase] at fired
    cases fired

end ControlRun

section Calls
variable {fromStr : String → Except String Json} {now : Nat} {actions : List ControlAction} {k m : Nat}

theorem andThenOk {α β : Type} {serve : Nat → (q : Question) → q.Reply → Nat → Prop} {call : Call α} {next : α → Call β}
    {result : β} (conducted : Dialogue.Conducted serve k (call.andThen next) (.ok result) m) :
    ∃ value l, Dialogue.Conducted serve k call (.ok value) l ∧ Dialogue.Conducted serve l (next value) (.ok result) m := by
  obtain ⟨middle,l,first,second⟩ := Dialogue.conductedBind conducted
  cases middle with
  | ok value => exact ⟨value,l,first,second⟩
  | error e => cases second.1

theorem ofExceptOk {α : Type} {serve : Nat → (q : Question) → q.Reply → Nat → Prop} {given : Except ControlError α}
    {value : α} (conducted : Dialogue.Conducted serve k (Call.ofExcept given) (.ok value) m) : given = .ok value ∧ m = k := by
  obtain ⟨same,rfl⟩ := conducted
  cases given with
  | ok other => exact ⟨congrArg Except.ok (Except.ok.inj same).symm,rfl⟩
  | error e => cases same

theorem awaitOk {operation : String} {waited : Waited Response} {value : Json}
    (awaited : awaitJsonResponse operation waited = .ok value) : waited = .value (.ok value) := by
  cases waited with
  | value response =>
    cases response with
    | ok other => rw [Except.ok.inj awaited]
    | error e => cases awaited
  | dropped => cases awaited
  | timedOut => cases awaited

open ControlRun CastConnection

theorem receiverRequestOk {operation : ReceiverOperation} {payload : Option (List (String × Json))}
    {custom : payload = none → operation ≠ .setVolume ∧ operation ≠ .stop} {description : String} {value : Json}
    (conducted : Dialogue.Conducted (Serves fromStr now actions) k (receiverRequest operation payload custom description)
      (.ok value) m) :
    ∃ i j allocation asked message, k ≤ i ∧ m = j+1 ∧
      Correlated fromStr now actions (.receiverRequest operation payload custom) i j allocation asked message value := by
  obtain ⟨reply,l,served,rest⟩ := conducted
  cases reply with
  | none => cases rest.1
  | some waited =>
    obtain ⟨same,rfl⟩ := rest
    cases awaitOk same.symm
    obtain ⟨i,failure,later,taken,_,told⟩ := served
    obtain ⟨j,allocation,asked,message,rfl,correlated⟩ := answeredCorrelated fromStr now actions taken told
    exact ⟨i,j,allocation,asked,message,later,rfl,correlated⟩

theorem sendFireOk {nameSpace destination : String} {payload : Json}
    (conducted : Dialogue.Conducted (Serves fromStr now actions) k (sendFire nameSpace destination payload) (.ok ()) m) :
    ∃ i, k ≤ i ∧ m = i+1 ∧ (output fromStr now actions i).written = [⟨destination,nameSpace,payload⟩] := by
  obtain ⟨reply,l,served,rest⟩ := conducted
  cases reply with
  | none => cases rest.1
  | some waited =>
    cases waited with
    | value result =>
      obtain ⟨rfl,rfl⟩ := ofExceptOk rest
      obtain ⟨i,failure,later,taken,_,fired,rfl⟩ := served
      exact ⟨i,later,rfl,firedWritten fromStr now actions taken fired⟩
    | dropped => cases rest.1
    | timedOut => cases rest.1

/- An application is launched, offered a stream and stopped; then the connection is closed. -/
def exampleLaunched (id : UInt64) : Json :=
  .object [("type",.string "RECEIVER_STATUS"),("requestId",.number (.unsigned id)),("status",.object [("applications",
    .array [.object [("appId",.string "A"),("transportId",.string "t"),("sessionId",.string "s")]])])]

def exampleAnswered : Json :=
  .object [("type",.string "ANSWER"),("seqNum",.number (.unsigned 1)),("answer",.object [("udpPort",.ofNat 2344),
    ("sendIndexes",.array [.ofNat 0]),("ssrcs",.array [.ofNat 1])])]

def launchedText (id : String) : String :=
  "\x7b\"type\":\"RECEIVER_STATUS\",\"requestId\":" ++ id ++
    ",\"status\":\x7b\"applications\":[\x7b\"appId\":\"A\",\"transportId\":\"t\",\"sessionId\":\"s\"\x7d]\x7d\x7d"

def answeredText : String :=
  "\x7b\"type\":\"ANSWER\",\"seqNum\":1,\"answer\":\x7b\"udpPort\":2344,\"sendIndexes\":[0],\"ssrcs\":[1]\x7d\x7d"

def exampleSessionText (text : String) : Except String Json :=
  if text = launchedText "1" then .ok (exampleLaunched 1) else if text = answeredText then .ok exampleAnswered
  else if text = launchedText "2" then .ok (exampleLaunched 2) else .error "expected value"

def exampleApp : CastApp := ⟨"A","t","s",none⟩

def exampleAudio : DocumentBuilder := ⟨.mirroring,SenderSession.exampleBuilder.audio,[]⟩

def exampleOfferDocument : OfferDocument := ⟨.mirroring,exampleAudio.streams SenderSession.exampleDraws⟩

def exampleSession : List ControlAction :=
  [.take (.command (.receiverRequest (.launch "A") none (by simp)) fun _ => none),
    .take (.message ⟨receiverId,senderId,nsReceiver,.string (launchedText "1")⟩ 0 none),
    .take (.command (.sendFire nsConnection "t" (.object [("type",.string "CONNECT")])) fun _ => none),
    .take (.command (.sendOffer "t" exampleOfferDocument.toValue) fun _ => none),
    .take (.message ⟨"t",senderId,nsWebrtc,.string answeredText⟩ 0 none),
    .take (.command (.sendFire nsConnection "t" (.object [("type",.string "CLOSE")])) fun _ => none),
    .take (.command (.receiverRequest .stop (some [("type",.string "STOP"),("sessionId",.string "s")]) (by simp))
      fun _ => none),
    .take (.message ⟨receiverId,senderId,nsReceiver,.string (launchedText "2")⟩ 0 none),
    .take (.command .close fun _ => none)]

theorem readAnswerOk {fromValue : Json → Except String Answer} {response : Json} {answer : Answer}
    (read : readAnswer fromValue response = .ok answer) :
    ∃ body, response.get "answer" = some body ∧ fromValue body = .ok answer := by
  unfold readAnswer at read
  split at read
  · cases read
  · split at read
    · cases read
    · rename_i body present
      refine ⟨body,present,?_⟩
      cases parsed : fromValue body with
      | ok other =>
        rw [parsed] at read
        exact congrArg Except.ok (Except.ok.inj read)
      | error e =>
        rw [parsed] at read
        cases read

theorem offerAnswered (connection : CastConnection) (fromValue : Json → Except String Answer) (offer : OfferDocument)
    (app : CastApp) (answer : Answer)
    (conducted : Dialogue.Conducted (Serves fromStr now actions) k (connection.exchangeOffer fromValue offer app)
      (.ok answer) m) :
    ¬ (connection.audioOnly ∧ offer.hasVideo) ∧ ∃ i j sequence message time failure value body, k ≤ i ∧ i < j ∧
      (output fromStr now actions i).written = [⟨app.transportId,nsWebrtc,
        .object [("type",.string "OFFER"),("seqNum",.ofU32 sequence),("offer",offer.toValue)]⟩] ∧
      actions[j]? = some (.take (.message message time failure)) ∧ message.nameSpace = nsWebrtc ∧
      message.sourceId = app.transportId ∧ Carries fromStr message value ∧ jsonMessageType value = some "ANSWER" ∧
      jsonU32 value "seqNum" = some sequence ∧ value.get "answer" = some body ∧ fromValue body = .ok answer := by
  unfold exchangeOffer at conducted
  split at conducted
  · cases conducted.1
  · rename_i allowed
    refine ⟨allowed,?_⟩
    obtain ⟨reply,l,served,rest⟩ := conducted
    cases reply with
    | none => cases rest.1
    | some waited =>
      obtain ⟨same,rfl⟩ := rest
      obtain ⟨value,awaited,read⟩ := bindOk.mp same.symm
      obtain ⟨body,present,parsed⟩ := readAnswerOk read
      cases awaitOk awaited
      obtain ⟨i,late,later,taken,_,told⟩ := served
      obtain ⟨j,allocation,asked,message,_,correlated⟩ := answeredCorrelated fromStr now actions taken told
      obtain ⟨time,failure,received⟩ := correlated.received
      cases Option.some.inj correlated.entered
      obtain ⟨webrtc,source,kind,sequence⟩ := correlated.suits
      exact ⟨i,j,allocation.id,message,time,failure,value,body,later,correlated.order,correlated.written,received,webrtc,
        source,correlated.carries,kind,sequence,present,parsed⟩

def exampleReceived : Answer := ⟨2344,[0],[1],none,none,none⟩

def exampleFromValue (body : Json) : Except String Answer :=
  if (body.get "udpPort").bind Json.asU64 = some 2344 then .ok exampleReceived else .error "missing field"

set_option maxRecDepth 4000 in
theorem exampleOfferAnswered : exampleAudio.build SenderSession.exampleDraws = .ok exampleOfferDocument ∧
    Dialogue.Conducted (Serves exampleSessionText 0 exampleSession) 3
      (CastConnection.exchangeOffer ⟨"",none⟩ exampleFromValue exampleOfferDocument exampleApp) (.ok exampleReceived) 5 ∧
    ∃ (i j : Nat), ∃ sequence message time failure value, i < j ∧
      (output exampleSessionText 0 exampleSession i).written = [⟨"t",nsWebrtc,
        .object [("type",.string "OFFER"),("seqNum",.ofU32 sequence),("offer",exampleOfferDocument.toValue)]⟩] ∧
      exampleSession[j]? = some (.take (.message message time failure)) ∧ message.sourceId = "t" ∧
      Carries exampleSessionText message value ∧ jsonU32 value "seqNum" = some sequence := by
  have answered : AnsweredAt exampleSessionText 0 exampleSession 3 5 (.ok exampleAnswered) :=
    answeredAlone 1 rfl (by decide) rfl rfl
  have conducted : Dialogue.Conducted (Serves exampleSessionText 0 exampleSession) 3
      (CastConnection.exchangeOffer ⟨"",none⟩ exampleFromValue exampleOfferDocument exampleApp)
      (.ok exampleReceived) 5 :=
    ⟨some (.value (.ok exampleAnswered)),5,⟨3,fun _ => none,le_refl _,rfl,rfl,answered⟩,rfl,rfl⟩
  obtain ⟨_,i,j,sequence,message,time,failure,value,_,_,order,written,received,_,source,carries,_,named,_⟩ :=
    offerAnswered _ _ _ _ _ conducted
  exact ⟨rfl,conducted,i,j,sequence,message,time,failure,value,order,written,received,source,carries,named⟩

theorem launchConnected (appId : String) (app : CastApp)
    (conducted : Dialogue.Conducted (Serves fromStr now actions) k (launch appId) (.ok app) m) :
    ∃ i j l id message time failure value status, k ≤ i ∧ i < j ∧ j < l ∧ m = l+1 ∧
      (output fromStr now actions i).written = [⟨receiverId,nsReceiver,
        .object [("type",.string "LAUNCH"),("appId",.string appId),("requestId",.ofU32 id)]⟩] ∧
      actions[j]? = some (.take (.message message time failure)) ∧ message.nameSpace = nsReceiver ∧
      message.sourceId = receiverId ∧ Carries fromStr message value ∧ jsonMessageType value = some "RECEIVER_STATUS" ∧
      parseReceiverStatus value = .ok status ∧ app ∈ status.applications ∧ app.appId = appId ∧
      (output fromStr now actions l).written =
        [⟨app.transportId,nsConnection,.object [("type",.string "CONNECT")]⟩] := by
  obtain ⟨value,l,requested,reading⟩ := andThenOk conducted
  obtain ⟨status,l',given,rest⟩ := andThenOk reading
  obtain ⟨parsed,rfl⟩ := ofExceptOk given
  cases found : status.applications.find? (fun app => app.appId = appId) with
  | none =>
    rw [found] at rest
    cases rest.1
  | some listed =>
    rw [found] at rest
    obtain ⟨_,l'',fired,same,rfl⟩ := andThenOk rest
    cases Except.ok.inj same
    obtain ⟨i,j,allocation,asked,message,later,rfl,correlated⟩ := receiverRequestOk requested
    obtain ⟨h,after,rfl,connected⟩ := sendFireOk fired
    obtain ⟨time,failure,received⟩ := correlated.received
    cases Option.some.inj correlated.entered
    obtain ⟨receiver,source,suits⟩ := correlated.suits
    have kind : jsonMessageType value = some "RECEIVER_STATUS" := by
      cases suits with
      | status type _ _ => exact type
      | listed type _ => exact type
      | availability _ _ asked =>
        obtain ⟨_,other⟩ := asked
        cases other
    exact ⟨i,j,h,allocation.id,message,time,failure,value,status,later,correlated.order,after,rfl,correlated.written,
      received,receiver,source,correlated.carries,kind,parsed,List.mem_of_find?_eq_some found,
      by simpa using List.find?_some found,connected⟩

theorem exampleLaunchConnected : ∃ app k m, Dialogue.Conducted (Serves exampleSessionText 0 exampleSession) k (launch "A")
    (.ok app) m ∧ app.appId = "A" ∧ ∃ l, (output exampleSessionText 0 exampleSession l).written =
      [⟨app.transportId,nsConnection,.object [("type",.string "CONNECT")]⟩] := by
  have answered : AnsweredAt exampleSessionText 0 exampleSession 0 2 (.ok (exampleLaunched 1)) :=
    answeredAlone 0 rfl (by decide) rfl rfl
  have conducted : Dialogue.Conducted (Serves exampleSessionText 0 exampleSession) 0 (launch "A") (.ok exampleApp) 3 :=
    ⟨some (.value (.ok (exampleLaunched 1))),2,⟨0,fun _ => none,le_refl _,rfl,rfl,answered⟩,
      some (.value (.ok ())),3,⟨2,fun _ => none,le_refl _,rfl,rfl,rfl,rfl⟩,rfl,rfl⟩
  obtain ⟨i,j,l,id,message,time,failure,value,status,_,_,_,_,_,_,_,_,_,_,_,_,named,connected⟩ :=
    launchConnected "A" exampleApp conducted
  exact ⟨exampleApp,0,3,conducted,named,l,connected⟩

theorem stopConfirmed (app : CastApp)
    (conducted : Dialogue.Conducted (Serves fromStr now actions) k (stop app) (.ok ()) m) :
    ∃ h i j id message time failure value, k ≤ h ∧ h < i ∧ i < j ∧ m = j+1 ∧
      (output fromStr now actions h).written =
        [⟨app.transportId,nsConnection,.object [("type",.string "CLOSE")]⟩] ∧
      (output fromStr now actions i).written = [⟨receiverId,nsReceiver,
        .object [("type",.string "STOP"),("sessionId",.string app.sessionId),("requestId",.ofU32 id)]⟩] ∧
      actions[j]? = some (.take (.message message time failure)) ∧ message.nameSpace = nsReceiver ∧
      message.sourceId = receiverId ∧ Carries fromStr message value ∧ jsonMessageType value = some "RECEIVER_STATUS" ∧
      jsonU32 value "requestId" = some id := by
  obtain ⟨_,l,fired,rest⟩ := andThenOk conducted
  obtain ⟨value,l',requested,_,rfl⟩ := andThenOk rest
  obtain ⟨h,later,rfl,left⟩ := sendFireOk fired
  obtain ⟨i,j,allocation,asked,message,after,rfl,correlated⟩ := receiverRequestOk requested
  obtain ⟨time,failure,received⟩ := correlated.received
  cases Option.some.inj correlated.entered
  obtain ⟨receiver,source,suits⟩ := correlated.suits
  have confirmed : jsonMessageType value = some "RECEIVER_STATUS" ∧ jsonU32 value "requestId" = some allocation.id := by
    cases suits with
    | status type named _ => exact ⟨type,named⟩
    | listed _ launched => cases launched
    | availability _ _ asked =>
      obtain ⟨_,other⟩ := asked
      cases other
  exact ⟨h,i,j,allocation.id,message,time,failure,value,later,after,correlated.order,rfl,left,correlated.written,received,
    receiver,source,correlated.carries,confirmed⟩

set_option maxRecDepth 4000 in
theorem exampleStopConfirmed : ∃ k m, Dialogue.Conducted (Serves exampleSessionText 0 exampleSession) k (stop exampleApp)
    (.ok ()) m ∧ ∃ h i, h < i ∧ (output exampleSessionText 0 exampleSession h).written =
      [⟨"t",nsConnection,.object [("type",.string "CLOSE")]⟩] := by
  have answered : AnsweredAt exampleSessionText 0 exampleSession 6 8 (.ok (exampleLaunched 2)) :=
    answeredAlone 2 rfl (by decide) rfl rfl
  have conducted : Dialogue.Conducted (Serves exampleSessionText 0 exampleSession) 5 (stop exampleApp) (.ok ()) 8 :=
    ⟨some (.value (.ok ())),6,⟨5,fun _ => none,le_refl _,rfl,rfl,rfl,rfl⟩,
      some (.value (.ok (exampleLaunched 2))),8,⟨6,fun _ => none,le_refl _,rfl,rfl,answered⟩,rfl,rfl⟩
  obtain ⟨h,i,j,id,message,time,failure,value,_,order,_,_,left,_⟩ := stopConfirmed exampleApp conducted
  exact ⟨5,8,conducted,h,i,order,left⟩

end Calls

end Chromiacast
