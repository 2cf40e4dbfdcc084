import Chromiacast.ControlLoop

/-! Every request has one end. The reply channels of the tables and of the answers
given so far are at every point exactly those of the requests that were made. -/
namespace Chromiacast
open Basis

section Ids
variable {τ : Type} {pending : Requests UInt32 τ}

theorem allocateIdFromFresh {rounds : Nat} {candidate id next : UInt32}
    (handed : allocateIdFrom pending rounds candidate = some (id,next)) : id ≠ 0 ∧ id ∉ pending := by
  induction rounds generalizing candidate with
  | zero => cases handed
  | succ rounds ih =>
    simp only [allocateIdFrom] at handed
    split at handed
    · rename_i fresh
      cases handed
      exact fresh
    · exact ih handed

theorem allocateIdFresh {candidate id next : UInt32} (handed : allocateId candidate pending = some (id,next)) :
    id ≠ 0 ∧ id ∉ pending := allocateIdFromFresh handed

theorem insertSenders {id : UInt32} (fresh : id ∉ pending) (subject : τ) (sender : Nat) :
    Requests.senders (pending.insert id ⟨subject,sender⟩) = sender::Requests.senders pending := by
  simp only [Requests.senders,AList.entries_insert_of_notMem fresh,List.map_cons]

end Ids

def Accounts (before : List Nat) (answers : Answers) (after : List Nat) : Prop :=
  (answers.map Prod.fst ++ after).Perm before

theorem Accounts.refl (senders : List Nat) : Accounts senders [] senders := List.Perm.refl _

section Replies
variable {value : Json} {source : String}

theorem completeReceiverStatusAccounts (pending : ReceiverRequests) :
    Accounts pending.senders (completeReceiverStatus value pending).2 (completeReceiverStatus value pending).1.senders := by
  unfold completeReceiverStatus
  split
  · exact Requests.settleSenders pending _ _
  · exact Requests.settleAllSenders pending _ _

theorem completeReceiverRequestAccounts (pending : ReceiverRequests) (expected : ReceiverOperation → Bool) :
    Accounts pending.senders (completeReceiverRequest value pending expected).2
      (completeReceiverRequest value pending expected).1.senders := by
  unfold completeReceiverRequest
  split
  · exact Accounts.refl _
  · exact Requests.settleIfSenders pending _ _ _

theorem failReceiverRequestAccounts (pending : ReceiverRequests) (detail : String) :
    Accounts pending.senders (failReceiverRequest value pending detail).2
      (failReceiverRequest value pending detail).1.senders := by
  unfold failReceiverRequest
  split
  · exact Accounts.refl _
  · exact Requests.settleSenders pending _ _

theorem completeOfferAccounts (pending : Offers) :
    Accounts pending.senders (completeOffer value source pending).2 (completeOffer value source pending).1.senders := by
  unfold completeOffer
  split
  · exact Accounts.refl _
  · exact Requests.settleIfSenders pending _ _ _

theorem failOfferAccounts (offers : Offers) (detail : String) :
    Accounts offers.senders (failOffer value source offers detail).2 (failOffer value source offers detail).1.senders := by
  unfold failOffer
  split
  · exact Accounts.refl _
  · exact Requests.settleIfSenders offers _ _ _

end Replies

section Tables
variable {t : Tables} {answers : Answers}

theorem Tables.sendersCount (t : Tables) (sender : Nat) :
    t.senders.count sender =
      t.receiver.senders.count sender + t.productInfo.senders.count sender + t.offers.senders.count sender := by
  simp only [Tables.senders,List.count_append]

theorem Accounts.frame {part part' all all' : List Nat} (accounts : Accounts part answers part')
    (moved : ∀ sender, all'.count sender + part.count sender = all.count sender + part'.count sender) :
    Accounts all answers all' := by
  refine List.perm_iff_count.mpr fun sender => ?_
  have counted := List.perm_iff_count.mp accounts sender
  have change := moved sender
  rw [List.count_append] at counted ⊢
  omega

theorem receiverAccounts {receiver : ReceiverRequests} {apps : KnownApps}
    (accounts : Accounts t.receiver.senders answers receiver.senders) :
    Accounts t.senders answers (Tables.senders {t with receiver := receiver, knownApps := apps}) := by
  refine accounts.frame fun sender => ?_
  simp only [Tables.sendersCount]
  omega

theorem productInfoAccounts {productInfo : ProductInfoRequests}
    (accounts : Accounts t.productInfo.senders answers productInfo.senders) :
    Accounts t.senders answers (Tables.senders {t with productInfo := productInfo}) := by
  refine accounts.frame fun sender => ?_
  simp only [Tables.sendersCount]
  omega

theorem offersAccounts {offers : Offers} {apps : KnownApps} (accounts : Accounts t.offers.senders answers offers.senders) :
    Accounts t.senders answers (Tables.senders {t with offers := offers, knownApps := apps}) := by
  refine accounts.frame fun sender => ?_
  simp only [Tables.sendersCount]
  omega

end Tables

section Dispatch
variable {fromStr : String → Except String Json} {t : Tables} {d : Dispatched}

theorem dispatchReceiverAccounts {value : Json} {source : String} (handled : dispatchReceiver value source t = .ok d) :
    Accounts t.senders d.answers d.tables.senders := by
  simp only [dispatchReceiver] at handled
  split at handled
  · cases handled
    exact Accounts.refl _
  · split at handled
    · split at handled
      · cases handled
      · cases handled
        exact receiverAccounts (completeReceiverStatusAccounts _)
    · split at handled
      · cases handled
        exact receiverAccounts (completeReceiverRequestAccounts _ _)
      · split at handled
        · cases handled
          exact receiverAccounts (failReceiverRequestAccounts _ _)
        · cases handled
          exact Accounts.refl _

theorem dispatchWebrtcAccounts (value : Json) (source : String) (t : Tables) :
    Accounts t.senders (dispatchWebrtc value source t).answers (dispatchWebrtc value source t).tables.senders := by
  simp only [dispatchWebrtc]
  split
  · exact offersAccounts (completeOfferAccounts _)
  · split
    · exact offersAccounts (failOfferAccounts _ _)
    · exact Accounts.refl _

theorem dispatchJsonMessageAccounts {message : CastMessage} (handled : dispatchJsonMessage fromStr message t = .ok d) :
    Accounts t.senders d.answers d.tables.senders := by
  unfold dispatchJsonMessage at handled
  split at handled
  · cases handled
    exact Accounts.refl _
  · split at handled
    · cases handled
      exact Accounts.refl _
    · split at handled
      · cases handled
      · split at handled
        · exact dispatchReceiverAccounts handled
        · cases handled
          exact dispatchWebrtcAccounts _ _ _

theorem dispatchProductInfoMessageAccounts {operation : ProductInfoOperation} {message : CastMessage}
    {pending : ProductInfoRequests} {result : ProductInfoRequests × Answers}
    (handled : dispatchProductInfoMessage fromStr operation message pending = .ok result) :
    Accounts pending.senders result.2 result.1.senders := by
  unfold dispatchProductInfoMessage at handled
  split at handled
  · cases handled
    exact Accounts.refl _
  · split at handled
    · cases handled
    · split at handled
      · cases handled
      · split at handled
        · cases handled
          exact Accounts.refl _
        · cases handled
          exact Requests.settleIfSenders pending _ _ _

theorem dispatchAccounts {message : CastMessage} (handled : dispatch fromStr message t = .ok d) :
    Accounts t.senders d.answers d.tables.senders := by
  unfold dispatch at handled
  split at handled
  · split at handled
    · cases handled
    · rename_i found
      cases handled
      exact productInfoAccounts (dispatchProductInfoMessageAccounts found)
  · exact dispatchJsonMessageAccounts handled

end Dispatch

structure Keeps (s : ControlLoop) (sender : Nat) (t : Turned) : Prop where
  account : Accounts (s.tables.senders ++ if t.allocated.isSome then [sender] else []) t.answers t.loop.tables.senders
  fresh : ∀ a, t.allocated = some a → a.id ≠ 0 ∧ a.id ∉ a.pending

section Turns
variable {fromStr : String → Except String Json} {s : ControlLoop} {sender : Nat} {t : Turned}

theorem Keeps.write (keeps : Keeps s sender t) (message : Outgoing) (label : String) (failure : Option String) :
    Keeps s sender (t.write message label failure) := by
  cases failure with
  | none => exact ⟨keeps.account,keeps.fresh⟩
  | some error => exact ⟨keeps.account,keeps.fresh⟩

theorem keepsEntered {τ : Type} {pending : Requests UInt32 τ} {candidate id next : UInt32}
    (handed : allocateId candidate pending = some (id,next)) (allocated : t.allocated = some ⟨id,pending.keys⟩)
    (answers : t.answers = []) (subject : τ) (entered : ∀ x, t.loop.tables.senders.count x + pending.senders.count x =
      s.tables.senders.count x + (Requests.senders (pending.insert id ⟨subject,sender⟩)).count x) : Keeps s sender t := by
  have fresh := allocateIdFresh handed
  refine ⟨?_,fun a same => ?_⟩
  · rw [allocated,answers]
    refine List.perm_iff_count.mpr fun x => ?_
    have counted := entered x
    rw [insertSenders fresh.2,List.count_cons] at counted
    simp only [List.map_nil,List.nil_append,Option.isSome_some,if_true,List.count_append,List.count_cons,List.count_nil]
    omega
  · cases Option.some.inj (allocated.symm.trans same)
    exact fresh

theorem writeAnswers (t : Turned) (message : Outgoing) (label : String) (failure : Option String) :
    (t.write message label failure).answers = t.answers := by
  cases failure <;> rfl

theorem keepsPlain (account : Accounts s.tables.senders t.answers t.loop.tables.senders) (none : t.allocated = none) :
    Keeps s sender t := by
  refine ⟨?_,fun a some => ?_⟩
  · rw [none]
    simpa using account
  · rw [none] at some
    cases some

theorem keepsSame (loop : t.loop.tables = s.tables) (answers : t.answers = []) (none : t.allocated = none) :
    Keeps s sender t := by
  refine keepsPlain ?_ none
  rw [loop,answers]
  exact Accounts.refl _

theorem beatTables (s : ControlLoop) (now : Nat) (beat : Bool) :
    (if beat then {s with lastHeartbeat := now} else s).tables = s.tables := by
  split <;> rfl

theorem onMessageKeeps (message : CastMessage) (now : Nat) (failure : Option String) :
    Keeps s sender (s.onMessage fromStr message now failure) := by
  unfold ControlLoop.onMessage
  split
  · simp only [ControlLoop.onHeartbeat]
    split
    · exact Keeps.write (keepsSame (beatTables s now _) rfl rfl) _ _ _
    · exact keepsSame (beatTables s now _) rfl rfl
  · split
    · unfold ControlLoop.onClose
      split
      · exact keepsSame rfl rfl rfl
      · exact keepsPlain (offersAccounts (Requests.settleAllSenders s.tables.offers _ _)) rfl
    · split
      · exact keepsSame rfl rfl rfl
      · rename_i handled
        exact keepsPlain (dispatchAccounts handled) rfl

theorem onReceiverRequestKeeps {operation : ReceiverOperation} {payload : Option (List (String × Json))}
    {failure : Option String} (turned : s.onReceiverRequest operation payload sender failure = some t) :
    Keeps s sender t ∧ t.answers = [] := by
  obtain ⟨⟨id,next⟩,handed,rest⟩ := Option.bind_eq_some_iff.mp turned
  cases Option.some.inj rest
  refine ⟨Keeps.write (keepsEntered handed rfl rfl operation fun x => ?_) _ _ _,writeAnswers _ _ _ _⟩
  simp only [Tables.sendersCount]
  omega

theorem onProductInfoRequestKeeps {operation : ProductInfoOperation} {failure : Option String}
    (turned : s.onProductInfoRequest operation sender failure = some t) : Keeps s sender t ∧ t.answers = [] := by
  obtain ⟨⟨id,next⟩,handed,rest⟩ := Option.bind_eq_some_iff.mp turned
  cases Option.some.inj rest
  refine ⟨Keeps.write (keepsEntered handed rfl rfl operation fun x => ?_) _ _ _,writeAnswers _ _ _ _⟩
  simp only [Tables.sendersCount]
  omega

theorem onOfferKeeps {destination : String} {offer : Json} {failure : Option String}
    (turned : s.onOffer destination offer sender failure = some t) : Keeps s sender t ∧ t.answers = [] := by
  obtain ⟨⟨id,next⟩,handed,rest⟩ := Option.bind_eq_some_iff.mp turned
  cases Option.some.inj rest
  refine ⟨Keeps.write (keepsEntered handed rfl rfl destination fun x => ?_) _ _ _,writeAnswers _ _ _ _⟩
  simp only [Tables.sendersCount]
  omega

theorem onFireKeeps (message : Outgoing) (failure : Option String) :
    Keeps s sender (s.onFire message failure) ∧ (s.onFire message failure).answers = [] := by
  cases failure with
  | none => exact ⟨keepsSame rfl rfl rfl,rfl⟩
  | some error => exact ⟨keepsSame rfl rfl rfl,rfl⟩

theorem onCommandKeeps {command : ControlCommand} {failure : Nat → Option String}
    (turned : s.onCommand command sender failure = some t) : Keeps s sender t ∧ t.answers = [] := by
  cases command with
  | receiverRequest operation payload custom => exact onReceiverRequestKeeps turned
  | productInfoRequest operation => exact onProductInfoRequestKeeps turned
  | sendOffer destination offer => exact onOfferKeeps turned
  | sendFire nameSpace destination payload =>
    cases Option.some.inj turned
    exact onFireKeeps _ _
  | close =>
    cases Option.some.inj turned
    exact ⟨keepsSame rfl rfl rfl,rfl⟩

theorem onTickKeeps (now : Nat) (failure : Option String) :
    Keeps s sender (s.onTick now failure) ∧ (s.onTick now failure).answers = [] := by
  unfold ControlLoop.onTick
  split
  · exact ⟨keepsSame rfl rfl rfl,rfl⟩
  · have idle : Keeps s sender {loop := s} := keepsSame rfl rfl rfl
    exact ⟨idle.write _ _ _,writeAnswers _ _ _ _⟩

def ControlInput.IsMessage (input : ControlInput) : Prop := ∃ message now failure, input = .message message now failure

theorem turnKeeps {input : ControlInput} (turned : s.turn fromStr sender input = some t) :
    Keeps s sender t ∧ (t.answers ≠ [] → input.IsMessage) := by
  cases input with
  | message message now failure =>
    cases Option.some.inj turned
    exact ⟨onMessageKeeps message now failure,fun _ => ⟨message,now,failure,rfl⟩⟩
  | endOfStream =>
    cases Option.some.inj turned
    exact ⟨keepsSame rfl rfl rfl,fun some => absurd rfl some⟩
  | readError error =>
    cases Option.some.inj turned
    exact ⟨keepsSame rfl rfl rfl,fun some => absurd rfl some⟩
  | command command failure =>
    obtain ⟨keeps,silent⟩ := onCommandKeeps turned
    exact ⟨keeps,fun some => absurd silent some⟩
  | commandsClosed failure =>
    cases Option.some.inj turned
    exact ⟨keepsSame rfl rfl rfl,fun some => absurd rfl some⟩
  | tick now failure =>
    cases Option.some.inj turned
    have kept : Keeps s sender _ ∧ _ := onTickKeeps now failure
    exact ⟨kept.1,fun some => absurd kept.2 some⟩

end Turns

inductive ControlRun.StepTaken (fromStr : String → Except String Json) (w : ControlRun) :
    ControlAction → ControlRun → ControlOutput → Prop
  | abandoned (sender : Nat) : StepTaken fromStr w (.abandon sender) {w with closed := sender::w.closed} {}
  | turned (input : ControlInput) (t : Turned) (running : w.phase = .running)
      (turned : w.loop.turn fromStr w.issued input = some t) :
      StepTaken fromStr w (.take input) (w.finish t).1 (w.finish t).2
  | spins (input : ControlInput) : StepTaken fromStr w (.take input) {w with phase := .spinning} {}
  | ended (input : ControlInput) (stopped : w.phase ≠ .running) : StepTaken fromStr w (.take input) w {}

theorem ControlRun.stepTaken (fromStr : String → Except String Json) (w : ControlRun) (action : ControlAction) :
    w.StepTaken fromStr action (w.step fromStr action).1 (w.step fromStr action).2 := by
  cases action with
  | abandon sender => exact .abandoned sender
  | take input =>
    simp only [ControlRun.step]
    split
    · rename_i running
      split
      · exact .spins input
      · rename_i t turned
        exact .turned input t running turned
    · rename_i ended
      exact .ended input ended

def ControlOutput.settled (out : ControlOutput) : List Nat := out.fates.map Prod.fst

inductive Fate.Due (w : ControlRun) (action : ControlAction) (after : ControlRun) (sender : Nat) : Fate → Prop
  | answered {response} {input : ControlInput} (taken : action = .take input) (message : input.IsMessage) :
      Due w action after sender (.answered response)
  | failed {response} {result} (running : w.phase = .running) (ended : after.phase = .exited result) :
      Due w action after sender (.failed response)
  | abandoned (gone : sender ∈ w.closed) : Due w action after sender .abandoned

structure Lifecycle (w : ControlRun) (action : ControlAction) (after : ControlRun) (out : ControlOutput) : Prop where
  account : (out.settled ++ after.loop.tables.senders).Perm
    (w.loop.tables.senders ++ List.range' w.issued (after.issued-w.issued))
  grows : w.issued ≤ after.issued
  fresh : ∀ a, out.allocated = some a → a.id ≠ 0 ∧ a.id ∉ a.pending
  due : ∀ sender fate, (sender,fate) ∈ out.fates → fate.Due w action after sender

section Steps
variable {fromStr : String → Except String Json} {w : ControlRun}

theorem pruneSenders (t : Tables) (closed : Nat → Bool) :
    (t.senders.filter closed ++ (t.prune closed).senders).Perm t.senders := by
  have dropped {τ : Type} (m : Requests UInt32 τ) :
      (m.senders.filter closed ++ (m.retain fun request => !closed request.responseSender).senders).Perm m.senders := by
    have kept := m.retainSenders fun request => !closed request.responseSender
    simpa only [Requests.senders,List.filter_map,Bool.not_not,Function.comp_def] using kept
  refine List.perm_iff_count.mpr fun x => ?_
  have one := List.perm_iff_count.mp (dropped t.receiver) x
  have two := List.perm_iff_count.mp (dropped t.productInfo) x
  have three := List.perm_iff_count.mp (dropped t.offers) x
  simp only [Tables.senders,Tables.prune,List.filter_append,List.count_append] at one two three ⊢
  omega

theorem finishLifecycle {t : Turned} {action : ControlAction} (running : w.phase = .running) (keeps : Keeps w.loop w.issued t)
    (answers : t.answers ≠ [] → ∃ input : ControlInput, action = .take input ∧ input.IsMessage) :
    Lifecycle w action (w.finish t).1 (w.finish t).2 := by
  have answered (sender : Nat) (fate : Fate) (after : ControlRun)
      (member : (sender,fate) ∈ t.answers.map fun answer => (answer.1,Fate.answered answer.2)) :
      fate.Due w action after sender := by
    obtain ⟨answer,given,same⟩ := List.mem_map.mp member
    obtain ⟨input,taken,message⟩ := answers (List.ne_nil_of_mem given)
    cases same
    exact .answered taken message
  have entered : List.range' w.issued ((if t.allocated.isSome then w.issued+1 else w.issued)-w.issued) =
      if t.allocated.isSome then [w.issued] else [] := by
    split <;> simp
  have grows : w.issued ≤ if t.allocated.isSome then w.issued+1 else w.issued := by split <;> omega
  cases exit : t.exit with
  | none =>
    simp only [ControlRun.finish,exit]
    refine ⟨?_,grows,keeps.fresh,fun sender fate member => ?_⟩
    · have pruned := pruneSenders t.loop.tables w.closed.contains
      simp only [ControlOutput.settled,List.map_append,List.map_map,Function.comp_def,List.map_id',List.append_assoc]
      rw [entered]
      exact (pruned.append_left _).trans keeps.account
    · rcases List.mem_append.mp member with given | dropped
      · exact answered sender fate _ given
      · obtain ⟨_,gone,same⟩ := List.mem_map.mp dropped
        cases same
        exact .abandoned (List.contains_iff_mem.mp (List.mem_filter.mp gone).2)
  | some ended =>
    simp only [ControlRun.finish,exit]
    refine ⟨?_,grows,keeps.fresh,fun sender fate member => ?_⟩
    · simp only [ControlOutput.settled,failAllPending,List.map_append,List.map_map,Function.comp_def,List.map_id',
        List.append_assoc]
      rw [entered,show Tables.senders {t.loop.tables with receiver := ∅, productInfo := ∅, offers := ∅} = [] from rfl,
        List.append_nil]
      exact keeps.account
    · rcases List.mem_append.mp member with given | failed
      · exact answered sender fate _ given
      · obtain ⟨_,_,same⟩ := List.mem_map.mp failed
        cases same
        exact .failed running rfl

theorem idleLifecycle {action : ControlAction} {after : ControlRun} (loop : after.loop = w.loop)
    (issued : after.issued = w.issued) : Lifecycle w action after {} := by
  refine ⟨?_,issued.ge,fun a some => (by cases some),fun sender fate member => (by cases member)⟩
  rw [loop,issued,Nat.sub_self]
  simp [ControlOutput.settled]

theorem stepLifecycle {action : ControlAction} {after : ControlRun} {out : ControlOutput}
    (taken : w.StepTaken fromStr action after out) : Lifecycle w action after out := by
  cases taken with
  | abandoned sender => exact idleLifecycle rfl rfl
  | turned input t running turned =>
    obtain ⟨keeps,message⟩ := turnKeeps turned
    exact finishLifecycle running keeps fun some => ⟨input,rfl,message some⟩
  | spins input => exact idleLifecycle rfl rfl
  | ended input _ => exact idleLifecycle rfl rfl

def ControlRun.Emptied (w : ControlRun) : Prop :=
  ∀ result, w.phase = .exited result →
    w.loop.tables.receiver = ∅ ∧ w.loop.tables.productInfo = ∅ ∧ w.loop.tables.offers = ∅

theorem finishEmptied (w : ControlRun) (t : Turned) : (w.finish t).1.Emptied := by
  intro result ended
  cases exit : t.exit with
  | none =>
    simp only [ControlRun.finish,exit] at ended
    cases ended
  | some reason =>
    simp only [ControlRun.finish,exit]
    exact ⟨rfl,rfl,rfl⟩

theorem stepEmptied {action : ControlAction} {after : ControlRun} {out : ControlOutput}
    (taken : w.StepTaken fromStr action after out) (empty : w.Emptied) : after.Emptied := by
  cases taken with
  | abandoned sender => exact empty
  | turned input t _ _ => exact finishEmptied w t
  | spins input =>
    intro result ended
    cases ended
  | ended input _ => exact empty

theorem finishClosed (w : ControlRun) (t : Turned) : (w.finish t).1.closed = w.closed := by
  cases exit : t.exit <;> simp only [ControlRun.finish,exit]

theorem stepClosed {action : ControlAction} {after : ControlRun} {out : ControlOutput}
    (taken : w.StepTaken fromStr action after out) (sender : Nat) :
    sender ∈ after.closed ↔ sender ∈ w.closed ∨ action = .abandon sender := by
  cases taken with
  | abandoned caller => simp [eq_comm,or_comm]
  | turned input t _ _ => simp [finishClosed]
  | spins input => simp
  | ended input _ => simp

end Steps

section Runs
variable (fromStr : String → Except String Json) (now : Nat)

theorem runAccount (actions : List ControlAction) :
    (((ControlRun.run fromStr now actions).2.flatMap ControlOutput.settled) ++
      (ControlRun.run fromStr now actions).1.loop.tables.senders).Perm
        (List.range (ControlRun.run fromStr now actions).1.issued) := by
  refine Machine.runTrace (ControlRun.step fromStr) (R := fun w trace =>
    (trace.flatMap ControlOutput.settled ++ w.loop.tables.senders).Perm (List.range w.issued)) (List.Perm.refl _)
    (fun w trace action account => ?_) actions
  have life := stepLifecycle (w.stepTaken fromStr action)
  have whole : List.range (w.step fromStr action).1.issued =
      List.range w.issued ++ List.range' w.issued ((w.step fromStr action).1.issued-w.issued) := by
    rw [List.range_eq_range',List.range_eq_range',← Nat.add_sub_cancel' life.grows,← List.range'_append_1]
    simp
  rw [List.flatMap_append,List.flatMap_singleton,List.append_assoc,whole]
  refine (life.account.append_left _).trans ?_
  rw [← List.append_assoc]
  exact account.append_right _

theorem runEmptied (actions : List ControlAction) : (ControlRun.run fromStr now actions).1.Emptied := by
  refine Machine.runInvariant (ControlRun.step fromStr) (P := ControlRun.Emptied)
    (fun w action => stepEmptied (w.stepTaken fromStr action)) (fun result ended => ?_) actions
  cases ended

theorem runClosed (actions : List ControlAction) (sender : Nat) :
    sender ∈ (ControlRun.run fromStr now actions).1.closed ↔ .abandon sender ∈ actions := by
  induction actions using List.reverseRecOn with
  | nil => simp [ControlRun.run,ControlRun.new]
  | append_singleton past action ih =>
    unfold ControlRun.run at ih ⊢
    rw [Machine.runSnoc,stepClosed (ControlRun.stepTaken fromStr _ action),ih,List.mem_append,List.mem_singleton]
    simp only [eq_comm]

theorem requestLifecycle (actions : List ControlAction) :
    let final := ControlRun.run fromStr now actions
    (final.2.flatMap ControlOutput.settled ++ final.1.loop.tables.senders).Perm (List.range final.1.issued) ∧
    (final.2.flatMap ControlOutput.settled).Nodup ∧
    (∀ result, final.1.phase = .exited result →
      final.1.loop.tables.receiver = ∅ ∧ final.1.loop.tables.productInfo = ∅ ∧ final.1.loop.tables.offers = ∅) ∧
    ∀ past action rest, actions = past ++ action::rest →
      let before := (ControlRun.run fromStr now past).1
      let taken := before.step fromStr action
      (∀ a, taken.2.allocated = some a → a.id ≠ 0 ∧ a.id ∉ a.pending) ∧
      ∀ sender fate, (sender,fate) ∈ taken.2.fates →
        match fate with
        | .answered _ => ∃ message now failure, action = .take (.message message now failure)
        | .failed _ => ∃ result, before.phase = .running ∧ taken.1.phase = .exited result
        | .abandoned => .abandon sender ∈ past := by
  have account := runAccount fromStr now actions
  have distinct := account.nodup_iff.mpr List.nodup_range
  refine ⟨account,(List.nodup_append.mp distinct).1,runEmptied fromStr now actions,?_⟩
  intro past action rest _
  have life := stepLifecycle ((ControlRun.run fromStr now past).1.stepTaken fromStr action)
  refine ⟨life.fresh,fun sender fate member => ?_⟩
  cases life.due sender fate member with
  | answered taken message =>
    obtain ⟨m,time,failure,rfl⟩ := message
    exact ⟨m,time,failure,taken⟩
  | failed running ended => exact ⟨_,running,ended⟩
  | abandoned gone => exact (runClosed fromStr now past sender).mp gone

end Runs

end Chromiacast
