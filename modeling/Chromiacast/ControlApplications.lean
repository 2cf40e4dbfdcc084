import Chromiacast.ControlLifecycle
import Chromiacast.ControlRouting

/-! Applications come and go. A transport is known from the status that lists it until a
status no longer does or the transport closes, and its stopping is announced just then.
Closing a transport fails the offers to it; a status that drops the transport leaves them. -/
namespace Chromiacast
open Basis

def KnownApps.Keyed (apps : KnownApps) : Prop :=
  ∀ transport app, apps.lookup transport = some app → app.transportId = transport

def ControlEvent.stops (transport : String) : ControlEvent → Bool
  | .applicationStopped app => app.transportId = transport
  | _ => false

def ControlEvent.Lists (transport : String) : ControlEvent → Prop
  | .receiverStatus status => ∃ app ∈ status.applications, app.transportId = transport
  | _ => False

section Apps
variable {apps : KnownApps}

theorem emptyKeyed : KnownApps.Keyed ∅ := by
  intro transport app found
  rw [AList.lookup_empty] at found
  cases found

theorem eraseKeyed (keyed : apps.Keyed) (source : String) : KnownApps.Keyed (apps.erase source) := by
  intro transport app found
  by_cases same : transport = source
  · rw [same,AList.lookup_erase] at found
    cases found
  · rw [AList.lookup_erase_ne same] at found
    exact keyed transport app found

theorem insertKeyed (keyed : apps.Keyed) (app : CastApp) : KnownApps.Keyed (apps.insert app.transportId app) := by
  intro transport other found
  by_cases same : transport = app.transportId
  · rw [same,AList.lookup_insert] at found
    cases Option.some.inj found
    exact same.symm
  · rw [AList.lookup_insert_ne same] at found
    exact keyed transport other found

theorem collectFrom (applications : List CastApp) (keyed : apps.Keyed) :
    let collected := applications.foldl (fun apps app => apps.insert app.transportId app) apps
    KnownApps.Keyed collected ∧
      ∀ transport, transport ∈ collected ↔ transport ∈ apps ∨ ∃ app ∈ applications, app.transportId = transport := by
  induction applications generalizing apps with
  | nil => exact ⟨keyed,fun transport => by simp⟩
  | cons app applications ih =>
    obtain ⟨keyed',members⟩ := ih (insertKeyed keyed app)
    refine ⟨keyed',fun transport => ?_⟩
    rw [List.foldl_cons,members,AList.mem_insert]
    simp only [List.mem_cons,exists_eq_or_imp,eq_comm (a := transport)]
    tauto

theorem collectAppsKeyed (applications : List CastApp) : (collectApps applications).Keyed :=
  (collectFrom applications emptyKeyed).1

theorem memCollectApps (applications : List CastApp) (transport : String) :
    transport ∈ collectApps applications ↔ ∃ app ∈ applications, app.transportId = transport := by
  rw [collectApps,(collectFrom applications emptyKeyed).2]
  simp [AList.notMem_empty]

theorem keyOnce (apps : KnownApps) (transport : String) :
    apps.entries.countP (fun e => e.1 == transport) = if transport ∈ apps then 1 else 0 := by
  have once := List.Nodup.count (a := transport) apps.nodupKeys
  rw [List.count_eq_countP,List.keys,List.countP_map] at once
  exact once.trans (if_congr Iff.rfl rfl rfl)

theorem publishStops (keyed : apps.Keyed) (status : ReceiverStatus) (transport : String) :
    (publishReceiverStatus status apps).2.countP (ControlEvent.stops transport) =
      if transport ∈ apps ∧ transport ∉ collectApps status.applications then 1 else 0 := by
  simp only [publishReceiverStatus,List.countP_append,List.countP_map,List.countP_filter,List.countP_singleton,
    ControlEvent.stops,Bool.false_eq_true,if_false,Nat.add_zero,Function.comp_def]
  have own (e : (_ : String) × CastApp) (member : e ∈ apps.entries) : e.2.transportId = e.1 :=
    keyed e.1 e.2 (AList.mem_lookup_iff.mpr member)
  by_cases listed : transport ∈ collectApps status.applications
  · rw [if_neg fun both => both.2 listed,List.countP_eq_zero]
    intro e member stopped
    obtain ⟨same,unlisted⟩ : e.2.transportId = transport ∧ e.1 ∉ collectApps status.applications := by simpa using stopped
    rw [own e member] at same
    exact unlisted (same ▸ listed)
  · simp only [listed,not_false_eq_true,and_true]
    rw [← keyOnce apps transport]
    refine List.countP_congr fun e member => ?_
    rw [own e member]
    simp only [Bool.and_eq_true,decide_eq_true_eq,beq_iff_eq]
    exact ⟨fun both => both.1,fun same => ⟨same,same ▸ listed⟩⟩

theorem eraseStops (keyed : apps.Keyed) (source transport : String) :
    ((apps.lookup source).map ControlEvent.applicationStopped).toList.countP (ControlEvent.stops transport) =
      if transport ∈ apps ∧ transport ∉ apps.erase source then 1 else 0 := by
  cases found : apps.lookup source with
  | none =>
    have unknown : source ∉ apps := AList.lookup_eq_none.mp found
    rw [if_neg]
    · rfl
    · rw [AList.mem_erase]
      rintro ⟨known,kept⟩
      exact kept ⟨fun same => unknown (same ▸ known),known⟩
  | some app =>
    have known : source ∈ apps := AList.lookup_isSome.mp (by rw [found]; rfl)
    have named := keyed source app found
    simp only [Option.map_some,Option.toList_some,List.countP_singleton,ControlEvent.stops,named,decide_eq_true_eq]
    refine if_congr ?_ rfl rfl
    rw [AList.mem_erase]
    constructor
    · rintro rfl
      exact ⟨known,fun kept => kept.1 rfl⟩
    · rintro ⟨present,dropped⟩
      by_contra other
      exact dropped ⟨fun same => other same.symm,present⟩

end Apps

def CarriesStatus (fromStr : String → Except String Json) (message : CastMessage) (status : ReceiverStatus) : Prop :=
  message.nameSpace = nsReceiver ∧ message.sourceId = receiverId ∧ ∃ value, Carries fromStr message value ∧
    jsonMessageType value = some "RECEIVER_STATUS" ∧ parseReceiverStatus value = .ok status

inductive AppsTurned (fromStr : String → Except String Json) (s : ControlLoop) (input : ControlInput) (t : Turned) : Prop
  | kept (apps : t.loop.tables.knownApps = s.tables.knownApps) (quiet : t.events = [])
  | closed (source : String) (apps : t.loop.tables.knownApps = s.tables.knownApps.erase source)
      (events : t.events = ((s.tables.knownApps.lookup source).map ControlEvent.applicationStopped).toList)
      (offers : (t.loop.tables.offers,t.answers) =
        failOffersForDestination s.tables.offers source "application transport closed")
  | published (message : CastMessage) (now : Nat) (failure : Option String) (status : ReceiverStatus)
      (taken : input = .message message now failure) (carries : CarriesStatus fromStr message status)
      (apps : t.loop.tables.knownApps = collectApps status.applications)
      (events : t.events = (publishReceiverStatus status s.tables.knownApps).2)
      (offers : t.loop.tables.offers = s.tables.offers)

section Turns
variable {fromStr : String → Except String Json} {s : ControlLoop} {sender : Nat} {t : Turned} {input : ControlInput}

theorem writeKept (apps : t.loop.tables.knownApps = s.tables.knownApps) (quiet : t.events = []) (message : Outgoing)
    (label : String) (failure : Option String) : AppsTurned fromStr s input (t.write message label failure) := by
  cases failure with
  | none => exact .kept apps quiet
  | some error => exact .kept apps quiet

theorem dispatchReceiverApps {message : CastMessage} {value : Json} {u : Tables} {d : Dispatched}
    (handled : dispatchReceiver value message.sourceId u = .ok d) :
    d.tables.knownApps = u.knownApps ∧ d.events = [] ∨
    ∃ status, message.sourceId = receiverId ∧ jsonMessageType value = some "RECEIVER_STATUS" ∧
      parseReceiverStatus value = .ok status ∧ d.tables.knownApps = collectApps status.applications ∧
      d.events = (publishReceiverStatus status u.knownApps).2 ∧ d.tables.offers = u.offers := by
  simp only [dispatchReceiver,typeIs (by decide : "RECEIVER_STATUS" ≠ "")] at handled
  split at handled
  · cases handled
    exact .inl ⟨rfl,rfl⟩
  · rename_i receiver
    split at handled
    · rename_i kind
      split at handled
      · cases handled
      · rename_i status parsed
        cases handled
        exact .inr ⟨status,not_not.mp receiver,kind,parsed,rfl,rfl,rfl⟩
    · split at handled
      · cases handled
        exact .inl ⟨rfl,rfl⟩
      · split at handled <;> cases handled <;> exact .inl ⟨rfl,rfl⟩

theorem dispatchApps {message : CastMessage} {u : Tables} {d : Dispatched} (handled : dispatch fromStr message u = .ok d) :
    d.tables.knownApps = u.knownApps ∧ d.events = [] ∨
    ∃ status, CarriesStatus fromStr message status ∧ d.tables.knownApps = collectApps status.applications ∧
      d.events = (publishReceiverStatus status u.knownApps).2 ∧ d.tables.offers = u.offers := by
  unfold dispatch at handled
  split at handled
  · split at handled
    · cases handled
    · cases handled
      exact .inl ⟨rfl,rfl⟩
  · unfold dispatchJsonMessage at handled
    split at handled
    · cases handled
      exact .inl ⟨rfl,rfl⟩
    · split at handled
      · cases handled
        exact .inl ⟨rfl,rfl⟩
      · rename_i text payload
        split at handled
        · cases handled
        · rename_i value parsed
          split at handled
          · rename_i receiver
            rcases dispatchReceiverApps handled with kept | ⟨status,source,kind,read,apps,events,offers⟩
            · exact .inl kept
            · have parsed' : fromStr text = .ok value := by
                unfold parsePayload at parsed
                split at parsed
                · rename_i found
                  cases parsed
                  exact found
                · cases parsed
              exact .inr ⟨status,⟨receiver,source,value,⟨text,payload,parsed'⟩,kind,read⟩,apps,events,offers⟩
          · cases handled
            simp only [dispatchWebrtc]
            split
            · exact .inl ⟨rfl,rfl⟩
            · split <;> exact .inl ⟨rfl,rfl⟩

theorem onMessageApps (message : CastMessage) (now : Nat) (failure : Option String) :
    AppsTurned fromStr s (.message message now failure) (s.onMessage fromStr message now failure) := by
  unfold ControlLoop.onMessage
  split
  · simp only [ControlLoop.onHeartbeat]
    split
    · exact writeKept (congrArg Tables.knownApps (beatTables s now _)) rfl _ _ _
    · exact .kept (congrArg Tables.knownApps (beatTables s now _)) rfl
  · split
    · unfold ControlLoop.onClose
      split
      · exact .kept rfl rfl
      · exact .closed message.sourceId rfl rfl rfl
    · split
      · exact .kept rfl rfl
      · rename_i handled
        rcases dispatchApps handled with ⟨apps,quiet⟩ | ⟨status,carries,apps,events,offers⟩
        · exact .kept apps quiet
        · exact .published message now failure status rfl carries apps events offers

theorem onCommandApps {command : ControlCommand} {failure : Nat → Option String}
    (turned : s.onCommand command sender failure = some t) : AppsTurned fromStr s input t := by
  cases command with
  | receiverRequest operation payload custom =>
    obtain ⟨handed,_,rest⟩ := Option.bind_eq_some_iff.mp turned
    cases Option.some.inj rest
    refine writeKept ?_ ?_ _ _ _ <;> rfl
  | productInfoRequest operation =>
    obtain ⟨handed,_,rest⟩ := Option.bind_eq_some_iff.mp turned
    cases Option.some.inj rest
    refine writeKept ?_ ?_ _ _ _ <;> rfl
  | sendOffer destination offer =>
    obtain ⟨handed,_,rest⟩ := Option.bind_eq_some_iff.mp turned
    cases Option.some.inj rest
    refine writeKept ?_ ?_ _ _ _ <;> rfl
  | sendFire nameSpace destination payload =>
    cases Option.some.inj turned
    cases fails : failure 0 with
    | none => exact .kept rfl rfl
    | some error => exact .kept rfl rfl
  | close =>
    cases Option.some.inj turned
    exact .kept rfl rfl

theorem turnApps (turned : s.turn fromStr sender input = some t) : AppsTurned fromStr s input t := by
  cases input with
  | message message now failure =>
    cases Option.some.inj turned
    exact onMessageApps message now failure
  | endOfStream =>
    cases Option.some.inj turned
    exact .kept rfl rfl
  | readError error =>
    cases Option.some.inj turned
    exact .kept rfl rfl
  | command command failure => exact onCommandApps turned
  | commandsClosed failure =>
    cases Option.some.inj turned
    exact .kept rfl rfl
  | tick now failure =>
    cases Option.some.inj turned
    unfold ControlLoop.onTick
    split
    · exact .kept rfl rfl
    · refine writeKept ?_ ?_ _ _ _ <;> rfl

theorem turnKeyed (turned : AppsTurned fromStr s input t) (keyed : s.tables.knownApps.Keyed) :
    t.loop.tables.knownApps.Keyed := by
  cases turned with
  | kept apps _ => exact apps ▸ keyed
  | closed source apps _ _ => exact apps ▸ eraseKeyed keyed source
  | published _ _ _ status _ _ apps _ _ => exact apps ▸ collectAppsKeyed status.applications

theorem turnAnnounces (turned : AppsTurned fromStr s input t) (keyed : s.tables.knownApps.Keyed) (transport : String) :
    t.events.countP (ControlEvent.stops transport) =
      if transport ∈ s.tables.knownApps ∧ transport ∉ t.loop.tables.knownApps then 1 else 0 := by
  cases turned with
  | kept apps quiet =>
    rw [quiet,apps,if_neg fun both => both.2 both.1]
    rfl
  | closed source apps events _ =>
    rw [events,apps]
    exact eraseStops keyed source transport
  | published _ _ _ status _ _ apps events _ =>
    rw [events,apps]
    exact publishStops keyed status transport

theorem turnLearns (turned : AppsTurned fromStr s input t) {transport : String}
    (unknown : transport ∉ s.tables.knownApps) (known : transport ∈ t.loop.tables.knownApps) :
    ∃ event ∈ t.events, event.Lists transport := by
  cases turned with
  | kept apps _ =>
    rw [apps] at known
    exact absurd known unknown
  | closed source apps _ _ =>
    rw [apps,AList.mem_erase] at known
    exact absurd known.2 unknown
  | published _ _ _ status _ _ apps events _ =>
    rw [apps,memCollectApps] at known
    refine ⟨.receiverStatus status,?_,known⟩
    rw [events]
    simp [publishReceiverStatus]

/- The status that comes drops no transport to which an offer still waits. -/
def ControlInput.SparesOffers (fromStr : String → Except String Json) (u : Tables) (input : ControlInput) : Prop :=
  ∀ message now failure status, input = .message message now failure → CarriesStatus fromStr message status →
    ∀ id offer, u.offers.lookup id = some offer → offer.subject ∈ u.knownApps →
      offer.subject ∈ collectApps status.applications

theorem turnFailsOffers (turned : AppsTurned fromStr s input t) (keyed : s.tables.knownApps.Keyed)
    (spares : input.SparesOffers fromStr s.tables) {app : CastApp} (stopped : .applicationStopped app ∈ t.events) :
    (∀ id offer, s.tables.offers.lookup id = some offer → offer.subject = app.transportId →
      ∃ error, (offer.responseSender,.error error) ∈ t.answers) ∧
    ∀ id offer, t.loop.tables.offers.lookup id = some offer → offer.subject ≠ app.transportId := by
  cases turned with
  | kept _ quiet =>
    rw [quiet] at stopped
    cases stopped
  | closed source _ events offers =>
    rw [events,Option.mem_toList,Option.map_eq_some_iff] at stopped
    obtain ⟨other,found,same⟩ := stopped
    cases same
    have named := keyed source app found
    obtain ⟨left,answers⟩ := Prod.mk.inj offers
    rw [left,answers,named]
    constructor
    · intro id offer waiting destined
      have matched : id ∈ s.tables.offers.matching fun waiting => waiting = source :=
        Requests.memMatching.mpr ⟨offer,waiting,decide_eq_true destined⟩
      exact ⟨_,Requests.settleAllAnswers matched waiting _⟩
    · intro id offer waiting destined
      rw [Requests.settleAllLookup] at waiting
      split at waiting
      · cases waiting
      · rename_i unmatched
        exact unmatched (Requests.memMatching.mpr ⟨offer,waiting,decide_eq_true destined⟩)
  | published message now failure status taken carries _ events offers =>
    have gone : app.transportId ∈ s.tables.knownApps ∧ app.transportId ∉ collectApps status.applications := by
      have counted := publishStops keyed status app.transportId
      by_contra other
      rw [if_neg other,List.countP_eq_zero] at counted
      exact counted (.applicationStopped app) (events ▸ stopped) (decide_eq_true rfl)
    have none (id : UInt32) (offer : Pending String) (waiting : s.tables.offers.lookup id = some offer) :
        offer.subject ≠ app.transportId := by
      intro destined
      have kept := spares message now failure status taken carries id offer waiting (destined ▸ gone.1)
      exact gone.2 (destined ▸ kept)
    exact ⟨fun id offer waiting destined => absurd destined (none id offer waiting),offers ▸ none⟩

end Turns

section Finish
variable (w : ControlRun) (t : Turned)

theorem finishApps : (w.finish t).1.loop.tables.knownApps = t.loop.tables.knownApps := by
  cases exit : t.exit <;> simp only [ControlRun.finish,exit] <;> rfl

theorem finishOffers {id : UInt32} {offer : Pending String}
    (waiting : (w.finish t).1.loop.tables.offers.lookup id = some offer) :
    t.loop.tables.offers.lookup id = some offer := by
  cases exit : t.exit with
  | none =>
    simp only [ControlRun.finish,exit] at waiting
    exact AList.mem_lookup_iff.mpr (List.mem_filter.mp (AList.mem_lookup_iff.mp waiting)).1
  | some ended =>
    simp only [ControlRun.finish,exit] at waiting
    cases waiting

theorem finishAnswered {sender : Nat} {response : Response} (answered : (sender,response) ∈ t.answers) :
    (sender,Fate.answered response) ∈ (w.finish t).2.fates := by
  have given : (sender,Fate.answered response) ∈ t.answers.map fun answer => (answer.1,Fate.answered answer.2) :=
    List.mem_map_of_mem answered
  cases exit : t.exit with
  | none =>
    simp only [ControlRun.finish,exit]
    exact List.mem_append_left _ given
  | some ended =>
    simp only [ControlRun.finish,exit]
    exact List.mem_append_left _ given

theorem finishEvents : ∃ last : List ControlEvent, (w.finish t).2.events = t.events ++ last ∧
    ∀ event ∈ last, ∃ reason, event = .closed reason := by
  cases exit : t.exit with
  | none => exact ⟨[],by simp only [ControlRun.finish,exit,List.append_nil],fun event member => by cases member⟩
  | some ended =>
    exact ⟨[.closed ended.2],by simp only [ControlRun.finish,exit],fun event member => ⟨ended.2,by simpa using member⟩⟩

theorem finishStops (transport : String) : (w.finish t).2.events.countP (ControlEvent.stops transport) =
    t.events.countP (ControlEvent.stops transport) := by
  obtain ⟨last,events,closing⟩ := finishEvents w t
  rw [events,List.countP_append,Nat.add_eq_left,List.countP_eq_zero]
  intro event member
  obtain ⟨reason,rfl⟩ := closing event member
  exact Bool.false_ne_true

theorem finishStopped {app : CastApp} (stopped : .applicationStopped app ∈ (w.finish t).2.events) :
    .applicationStopped app ∈ t.events := by
  obtain ⟨last,events,closing⟩ := finishEvents w t
  rw [events,List.mem_append] at stopped
  rcases stopped with before | ended
  · exact before
  · obtain ⟨reason,same⟩ := closing _ ended
    cases same

end Finish

namespace ControlRun
variable {fromStr : String → Except String Json}

abbrev apps (w : ControlRun) : KnownApps := w.loop.tables.knownApps

def SparesOffers (fromStr : String → Except String Json) (w : ControlRun) (action : ControlAction) : Prop :=
  ∀ input, action = .take input → input.SparesOffers fromStr w.loop.tables

section Step
variable {w after : ControlRun} {action : ControlAction} {out : ControlOutput}

theorem stepKeyed (taken : w.StepTaken fromStr action after out) (keyed : w.apps.Keyed) : after.apps.Keyed := by
  cases taken with
  | abandoned sender => exact keyed
  | turned input t _ turned =>
    rw [apps,finishApps]
    exact turnKeyed (turnApps turned) keyed
  | spins input => exact keyed
  | ended input _ => exact keyed

theorem stepAnnounces (taken : w.StepTaken fromStr action after out) (keyed : w.apps.Keyed) (transport : String) :
    out.events.countP (ControlEvent.stops transport) =
      if transport ∈ w.apps ∧ transport ∉ after.apps then 1 else 0 := by
  have idle : ([] : List ControlEvent).countP (ControlEvent.stops transport) =
      if transport ∈ w.apps ∧ transport ∉ w.apps then 1 else 0 := by simp
  cases taken with
  | abandoned sender => exact idle
  | turned input t _ turned =>
    rw [finishStops,apps,apps,finishApps]
    exact turnAnnounces (turnApps turned) keyed transport
  | spins input => exact idle
  | ended input _ => exact idle

theorem stepStopped (taken : w.StepTaken fromStr action after out) (keyed : w.apps.Keyed) {transport : String}
    (stopped : out.events.any (ControlEvent.stops transport)) : transport ∈ w.apps ∧ transport ∉ after.apps := by
  have counted := stepAnnounces taken keyed transport
  by_contra other
  rw [if_neg other,List.countP_eq_zero] at counted
  obtain ⟨event,member,stops⟩ := List.any_eq_true.mp stopped
  exact counted event member stops

theorem stepLearns (taken : w.StepTaken fromStr action after out) {transport : String} (unknown : transport ∉ w.apps)
    (known : transport ∈ after.apps) : ∃ event ∈ out.events, event.Lists transport := by
  cases taken with
  | abandoned sender => exact absurd known unknown
  | turned input t _ turned =>
    rw [apps,finishApps] at known
    obtain ⟨event,member,lists⟩ := turnLearns (turnApps turned) unknown known
    obtain ⟨last,events,_⟩ := finishEvents w t
    exact ⟨event,events ▸ List.mem_append_left last member,lists⟩
  | spins input => exact absurd known unknown
  | ended input _ => exact absurd known unknown

theorem stepFailsOffers (taken : w.StepTaken fromStr action after out) (keyed : w.apps.Keyed)
    (spares : w.SparesOffers fromStr action) {app : CastApp} (stopped : .applicationStopped app ∈ out.events) :
    (∀ id offer, w.loop.tables.offers.lookup id = some offer → offer.subject = app.transportId →
      ∃ error, (offer.responseSender,Fate.answered (.error error)) ∈ out.fates) ∧
    ∀ id offer, after.loop.tables.offers.lookup id = some offer → offer.subject ≠ app.transportId := by
  cases taken with
  | abandoned sender => cases stopped
  | turned input t _ turned =>
    obtain ⟨failed,none⟩ := turnFailsOffers (turnApps turned) keyed (spares input rfl) (finishStopped w t stopped)
    refine ⟨fun id offer waiting destined => ?_,fun id offer waiting => none id offer (finishOffers w t waiting)⟩
    obtain ⟨error,answered⟩ := failed id offer waiting destined
    exact ⟨error,finishAnswered w t answered⟩
  | spins input => cases stopped
  | ended input _ => cases stopped

end Step

theorem runKeyed {w : ControlRun} (keyed : w.apps.Keyed) (actions : List ControlAction) :
    (Machine.run (step fromStr) w actions).1.apps.Keyed :=
  Machine.runInvariant (step fromStr) (P := fun w => w.apps.Keyed)
    (fun w action keyed => stepKeyed (w.stepTaken fromStr action) keyed) keyed actions

theorem learnedBetween {w : ControlRun} {transport : String} (unknown : transport ∉ w.apps) (actions : List ControlAction)
    (known : transport ∈ (Machine.run (step fromStr) w actions).1.apps) :
    ∃ out ∈ (Machine.run (step fromStr) w actions).2, ∃ event ∈ out.events, event.Lists transport := by
  induction actions generalizing w with
  | nil => exact absurd known unknown
  | cons action rest ih =>
    by_cases first : transport ∈ (w.step fromStr action).1.apps
    · exact ⟨_,List.mem_cons_self,stepLearns (w.stepTaken fromStr action) unknown first⟩
    · obtain ⟨out,member,listed⟩ := ih first known
      exact ⟨out,List.mem_cons_of_mem _ member,listed⟩

/- Offers to an application have been failed when it is reported stopped, unless a status drops its
transport while they wait. In any run it is reported stopped just when its transport is forgotten. -/
theorem offersEndWithApplication (fromStr : String → Except String Json) (now : Nat) (actions : List ControlAction) :
    ∀ past action rest, actions = past ++ action::rest →
      let before := (run fromStr now past).1
      let taken := before.step fromStr action
      (before.SparesOffers fromStr action → ∀ app, .applicationStopped app ∈ taken.2.events →
        (∀ id offer, before.loop.tables.offers.lookup id = some offer → offer.subject = app.transportId →
          ∃ error, (offer.responseSender,Fate.answered (.error error)) ∈ taken.2.fates) ∧
        ∀ id offer, taken.1.loop.tables.offers.lookup id = some offer → offer.subject ≠ app.transportId) ∧
      (∀ transport, taken.2.events.countP (ControlEvent.stops transport) =
        if transport ∈ before.apps ∧ transport ∉ taken.1.apps then 1 else 0) ∧
      ∀ transport later second others, rest = later ++ second::others →
        let between := Machine.run (step fromStr) taken.1 later
        taken.2.events.any (ControlEvent.stops transport) →
        (between.1.step fromStr second).2.events.any (ControlEvent.stops transport) →
        ∃ out ∈ between.2, ∃ event ∈ out.events, event.Lists transport := by
  intro past action rest split
  have keyed : (run fromStr now past).1.apps.Keyed := runKeyed emptyKeyed past
  have taken := (run fromStr now past).1.stepTaken fromStr action
  refine ⟨fun spares app stopped => stepFailsOffers taken keyed spares stopped,
    stepAnnounces taken keyed,fun transport later second others _ first again => ?_⟩
  have forgotten := stepStopped taken keyed first
  have known := stepStopped (ControlRun.stepTaken fromStr _ second) (runKeyed (stepKeyed taken keyed) later) again
  exact learnedBetween forgotten.2 later known.1

def closeText : String := "\x7b\"type\":\"CLOSE\"\x7d"

def statusText (applications : String) : String :=
  "\x7b\"type\":\"RECEIVER_STATUS\",\"status\":\x7b\"applications\":[" ++ applications ++ "]\x7d\x7d"

def listedText : String := statusText "\x7b\"appId\":\"A\",\"transportId\":\"t\"\x7d"

def exampleStatus (applications : List Json) : Json :=
  .object [("type",.string "RECEIVER_STATUS"),("status",.object [("applications",.array applications)])]

def exampleAppText (text : String) : Except String Json :=
  if text = closeText then .ok (.object [("type",.string "CLOSE")])
  else if text = listedText then .ok (exampleStatus [.object [("appId",.string "A"),("transportId",.string "t")]])
  else if text = statusText "" then .ok (exampleStatus []) else .error "expected value"

def exampleReport (text : String) : ControlAction :=
  .take (.message ⟨receiverId,senderId,nsReceiver,.string text⟩ 0 none)

def exampleOffer : ControlAction := .take (.command (.sendOffer "t" .null) fun _ => none)

def exampleClose : ControlAction := .take (.message ⟨"t",senderId,nsConnection,.string closeText⟩ 0 none)

theorem statusLeavesOffer :
    let final := run exampleAppText 0 [exampleReport listedText,exampleOffer,exampleReport (statusText "")]
    final.2.getLast?.map ControlOutput.events =
      some [.applicationStopped ⟨"A","t","",none⟩,.receiverStatus ⟨[],none,none⟩] ∧
    final.1.loop.tables.offers.lookup 1 = some ⟨"t",0⟩ := ⟨rfl,rfl⟩

theorem closeSparesOffers :
    (run exampleAppText 0 [exampleReport listedText,exampleOffer]).1.SparesOffers exampleAppText exampleClose := by
  intro input taken message now failure status incoming carries
  rw [incoming] at taken
  cases taken
  exact absurd carries.1 (by decide)

theorem closeFailsOffer :
    let before := (run exampleAppText 0 [exampleReport listedText,exampleOffer]).1
    before.loop.tables.offers.lookup 1 = some ⟨"t",0⟩ ∧
      ∃ error, (0,Fate.answered (.error error)) ∈ (before.step exampleAppText exampleClose).2.fates := by
  obtain ⟨ends,_⟩ := offersEndWithApplication exampleAppText 0 [exampleReport listedText,exampleOffer,exampleClose]
    [exampleReport listedText,exampleOffer] exampleClose [] rfl
  exact ⟨rfl,(ends closeSparesOffers ⟨"A","t","",none⟩ List.mem_cons_self).1 1 ⟨"t",0⟩ rfl rfl⟩

end ControlRun

end Chromiacast
