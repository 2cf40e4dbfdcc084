import Chromiacast.SenderLoop
import Chromiacast.StreamQueues

/-! The acknowledgement watchdog. A stream waits from its last acknowledgement, or from
the first packet sent, since it last had nothing in flight. That nothing is sent for a
stream with nothing in flight rests on its queues: they hold packets of pending frames
only. -/
namespace Chromiacast
open Basis

inductive Note where
  | acknowledged (time : Nat)
  | sent (time : Nat)
  deriving DecidableEq, Repr

namespace Note

def acknowledgedAt : Note → Option Nat
  | acknowledged time => some time
  | sent _ => none

def sentAt : Note → Option Nat
  | acknowledged _ => none
  | sent time => some time

def apply (waiting : Option Nat) : Note → Option Nat
  | acknowledged time => some time
  | sent time => some (waiting.getD time)

end Note

def lastAcknowledged (notes : List Note) : Option Nat := (notes.filterMap Note.acknowledgedAt).getLast?

def firstSent (notes : List Note) : Option Nat := (notes.filterMap Note.sentAt).head?

def waitingFrom (notes : List Note) : Option Nat := (lastAcknowledged notes).or (firstSent notes)

def SenderEvent.acks (type : StreamType) : SenderEvent → Bool
  | .frameAcked stream _ => stream = type
  | _ => false

def Handled.acknowledges (h : Handled) (type : StreamType) : Bool :=
  h.emissions.any fun emission =>
    match emission with
    | .nonterminal event => event.acks type
    | .terminal _ => false

def sentNotes (type : StreamType) (sent : List Transmission) : List Note :=
  (sent.filter fun transmission => transmission.stream = type).map fun transmission => .sent transmission.sentAt

def Handled.notes (h : Handled) (type : StreamType) : List Note :=
  (if h.acknowledges type then [.acknowledged (h.advancedAt type)] else []) ++ sentNotes type h.sent

def period (type : StreamType) (trace : List (Option Handled)) : List Note :=
  trace.foldl (fun notes out => out.elim notes fun h =>
    if h.loop.inFlight type = 0 then [] else notes ++ h.notes type) []

theorem waitingSnoc (notes : List Note) (note : Note) :
    waitingFrom (notes ++ [note]) = note.apply (waitingFrom notes) := by
  cases note with
  | acknowledged time => simp [waitingFrom,lastAcknowledged,Note.acknowledgedAt,Note.apply]
  | sent time =>
    have acks : lastAcknowledged (notes ++ [.sent time]) = lastAcknowledged notes := by
      simp [lastAcknowledged,Note.acknowledgedAt]
    have first : firstSent (notes ++ [.sent time]) = (firstSent notes).or (some time) := by
      simp [firstSent,Note.sentAt,List.head?_append]
    rw [waitingFrom,waitingFrom,acks,first]
    cases lastAcknowledged notes <;> cases firstSent notes <;> rfl

theorem waitingAppend (notes more : List Note) :
    waitingFrom (notes ++ more) = more.foldl Note.apply (waitingFrom notes) := by
  induction more using List.reverseRecOn with
  | nil => simp
  | append_singleton more note ih =>
    rw [← List.append_assoc,waitingSnoc,ih,List.foldl_append]
    rfl

theorem sentKeeps (type : StreamType) (sent : List Transmission) (since : Nat) :
    (sentNotes type sent).foldl Note.apply (some since) = some since := by
  unfold sentNotes
  induction sent.filter fun transmission => transmission.stream = type with
  | nil => rfl
  | cons transmission rest ih => exact ih

namespace StreamState

def Served (s : StreamState) : Prop := ∃ sequenceNumber trace, Queues sequenceNumber s trace

theorem newServed (parameters : StreamParameters) (sequenceNumber : UInt16) : (new parameters sequenceNumber).Served :=
  ⟨sequenceNumber,[],newQueues parameters sequenceNumber⟩

theorem stepServed (aes : BlockCipher) {s : StreamState} (served : s.Served) (operation : Operation) :
    (step aes s operation).1.Served := by
  obtain ⟨sequenceNumber,trace,queues⟩ := served
  exact ⟨sequenceNumber,_,effectQueues queues (stepEffect aes s operation)⟩

theorem foundInFlight {s : StreamState} {id : Int} {frame : PendingFrame} (found : s.find id = some frame) :
    s.inFlightCount ≠ 0 := by
  intro empty
  rw [inFlightCount,Table.occupied,Vector.countP_eq_zero] at empty
  have stored := (Table.findSome.mp found).1
  have member : some frame ∈ s.pending := by
    rw [← stored,Vector.get_eq_getElem]
    exact Vector.getElem_mem _
  exact empty _ member rfl

theorem Served.drained {s : StreamState} (served : s.Served) (empty : s.inFlightCount = 0) : s.nextPacket.1 = none := by
  obtain ⟨_,_,queues⟩ := served
  cases next : s.nextPacket.1 with
  | none => rfl
  | some outbound =>
    obtain ⟨queued,member,_⟩ := nextPacketQueued next
    obtain ⟨frame,found,_⟩ := member.elim (queues.send queued) (queues.retransmit queued)
    exact absurd empty (foundInFlight found)

structure Rests (s t : StreamState) : Prop where
  served : s.Served → t.Served
  inFlight : t.inFlightCount = s.inFlightCount

theorem Rests.refl (s : StreamState) : Rests s s := ⟨id,rfl⟩

theorem Rests.trans {s t u : StreamState} (first : Rests s t) (second : Rests t u) : Rests s u :=
  ⟨second.served ∘ first.served,second.inFlight.trans first.inFlight⟩

/- The cipher plays no part in what follows; any one will do. -/
theorem restsStep {s : StreamState} (operation : Operation)
    (pending : (step (fun _ block => block) s operation).1.pending = s.pending) :
    Rests s (step (fun _ block => block) s operation).1 :=
  ⟨fun served => stepServed _ served operation,congrArg Table.occupied pending⟩

theorem nextPacketRests (s : StreamState) : Rests s s.nextPacket.2 := by
  refine restsStep .nextPacket ?_
  obtain ⟨_,_,written⟩ := s.nextPacketWrites
  simp only [step,written]

theorem recordPacketSentRests (s : StreamState) (length : Nat) (retransmission : Bool) :
    Rests s (s.recordPacketSent length retransmission) := by
  refine restsStep (.recordPacketSent length retransmission) ?_
  obtain ⟨_,_,_,written⟩ := s.recordPacketSentWrites length retransmission
  simp only [step,written]

theorem recordSenderReportRests (s : StreamState) (compactNtp : UInt32) (sentAt : Nat) :
    Rests s (s.recordSenderReport compactNtp sentAt) := restsStep (.recordSenderReport compactNtp sentAt) rfl

theorem setTargetPlayoutDelayRests (s : StreamState) (delay : Nat) : Rests s (s.setTargetPlayoutDelay delay) :=
  restsStep (.setTargetPlayoutDelay delay) rfl

theorem updateReceiverReferenceTimeRests (s : StreamState) (report : ReceiverReferenceTime) :
    Rests s (s.updateReceiverReferenceTime report) := restsStep (.receiverReferenceTime report) rfl

theorem updateReceiverReportRests (s : StreamState) (report : ReceiverReport) (receivedAt : Nat) :
    Rests s (s.updateReceiverReport report receivedAt) := by
  refine restsStep (.receiverReport report receivedAt) ?_
  obtain ⟨_,written⟩ := s.updateReceiverReportWrites report receivedAt
  simp only [step,written]

end StreamState

/- A flush of one stream: the watchdog hears of every packet, and there is none for a
stream with nothing in flight. -/
structure Flushed.Sound (type : StreamType) (s : StreamState) (watchdog : AcknowledgementWatchdog) (f : Flushed) : Prop where
  rests : s.Rests f.stream
  waiting : f.watchdog.waitingSince = (sentNotes type f.sent).foldl Note.apply watchdog.waitingSince
  acked : f.watchdog.hasAcknowledged = watchdog.hasAcknowledged
  own : ∀ transmission ∈ f.sent, transmission.stream = type
  idle : s.inFlightCount = 0 → f.sent = []

theorem Flushed.soundNone (type : StreamType) {s t : StreamState} (rests : s.Rests t) (watchdog : AcknowledgementWatchdog)
    (budget : BurstBudget) (result : Except SenderError Unit) :
    Flushed.Sound type s watchdog ⟨t,watchdog,budget,[],result⟩ :=
  ⟨rests,rfl,rfl,fun _ member => (by cases member),fun _ => rfl⟩

theorem flushRoundsSound (type : StreamType) (operation : String) (flush : Flush) (rounds k : Nat) {s : StreamState}
    (served : s.Served) (watchdog : AcknowledgementWatchdog) (budget : BurstBudget) :
    Flushed.Sound type s watchdog (flushRounds type operation flush rounds k s watchdog budget) := by
  induction rounds generalizing k s watchdog budget with
  | zero => exact Flushed.soundNone type (.refl s) watchdog budget _
  | succ rounds ih =>
    simp only [flushRounds]
    split
    · split
      · exact Flushed.soundNone type (.refl s) watchdog budget _
      · rename_i outbound t sent
        have popped : s.Rests t := by
          have next := s.nextPacketRests
          rw [sent] at next
          exact next
        split
        · exact Flushed.soundNone type popped watchdog budget _
        · have one := popped.trans (t.recordPacketSentRests outbound.packet.data.length outbound.retransmission)
          have rest := ih (k+1) (one.served served) (watchdog.packetSent (flush.sentAt k))
            (budget.consume outbound.packet.data.length)
          refine ⟨one.trans rest.rests,?_,rest.acked,?_,fun empty => ?_⟩
          · simp only [sentNotes,List.filter_cons,decide_true,if_true,List.map_cons,List.foldl_cons]
            exact rest.waiting
          · intro transmission member
            rcases List.mem_cons.mp member with rfl | later
            · rfl
            · exact rest.own transmission later
          · have none := served.drained empty
            rw [sent] at none
            cases none
    · exact Flushed.soundNone type (.refl s) watchdog budget _

namespace SenderLoop
variable {l : SenderLoop} {type : StreamType}

def Served (l : SenderLoop) (type : StreamType) : Prop := ∀ s, l.session.get type = some s → s.Served

theorem getSetWatchdog (l : SenderLoop) (type k : StreamType) (watchdog : AcknowledgementWatchdog) :
    (l.setWatchdog type watchdog).watchdog k = if k = type then watchdog else l.watchdog k := by
  cases type <;> cases k <;> rfl

theorem setWatchdogSession (l : SenderLoop) (type : StreamType) (watchdog : AcknowledgementWatchdog) :
    (l.setWatchdog type watchdog).session = l.session := by
  cases type <;> rfl

structure Sends (type : StreamType) (l after : SenderLoop) (sent : List Transmission) : Prop where
  served : l.Served type → after.Served type
  inFlight : after.inFlight type = l.inFlight type
  waiting : (after.watchdog type).waitingSince = (sentNotes type sent).foldl Note.apply (l.watchdog type).waitingSince
  acked : (after.watchdog type).hasAcknowledged = (l.watchdog type).hasAcknowledged
  idle : l.inFlight type = 0 → sentNotes type sent = []

theorem Sends.none {after : SenderLoop} (stream : after.session.get type = l.session.get type)
    (watchdog : after.watchdog type = l.watchdog type) : Sends type l after [] := by
  refine ⟨fun served s here => served s (stream ▸ here),?_,?_,?_,fun _ => rfl⟩
  · simp only [SenderLoop.inFlight,Session.inFlight,stream]
  · rw [watchdog]
    rfl
  · rw [watchdog]

theorem Sends.trans {a b c : SenderLoop} {first second : List Transmission} (one : Sends type a b first)
    (two : Sends type b c second) : Sends type a c (first ++ second) := by
  have split : sentNotes type (first ++ second) = sentNotes type first ++ sentNotes type second := by
    simp only [sentNotes,List.filter_append,List.map_append]
  refine ⟨two.served ∘ one.served,two.inFlight.trans one.inFlight,?_,two.acked.trans one.acked,fun empty => ?_⟩
  · rw [split,List.foldl_append,← one.waiting]
    exact two.waiting
  · rw [split,one.idle empty,two.idle (one.inFlight.trans empty)]
    rfl

theorem flushStreamSends (served : ∀ k, l.Served k) (k : StreamType) (operation : String) (flush : Flush) (first : Nat) :
    Sends type l (l.flushStream k operation flush first).1 (l.flushStream k operation flush first).2.1 := by
  simp only [flushStream]
  split
  · exact .none rfl rfl
  · rename_i s here
    have sound := flushRoundsSound k operation flush s.queued first (served k s here) (l.watchdog k) l.burstBudget
    generalize flushRounds k operation flush s.queued first s (l.watchdog k) l.burstBudget = f at sound
    by_cases own : type = k
    · subst own
      refine ⟨fun _ t there => ?_,?_,?_,?_,fun empty => ?_⟩
      · rw [setWatchdogSession,Session.putGet,if_pos rfl] at there
        cases Option.some.inj there
        exact sound.rests.served (served type s here)
      · simp only [inFlight,Session.inFlight,setWatchdogSession,Session.putGet,if_pos,here]
        exact sound.rests.inFlight
      · rw [getSetWatchdog,if_pos rfl]
        exact sound.waiting
      · rw [getSetWatchdog,if_pos rfl]
        exact sound.acked
      · have nothing : s.inFlightCount = 0 := by
          simpa only [inFlight,Session.inFlight,here,Option.elim_some] using empty
        rw [sound.idle nothing]
        rfl
    · have foreign : sentNotes type f.sent = [] := by
        rw [sentNotes,List.map_eq_nil_iff,List.filter_eq_nil_iff]
        intro transmission member same
        exact own ((decide_eq_true_iff.mp same).symm.trans (sound.own transmission member))
      have unchanged : Sends type l ({l with session := l.session.put k f.stream, burstBudget := f.budget}.setWatchdog k
          f.watchdog) [] := by
        refine .none ?_ ?_
        · rw [setWatchdogSession,Session.putGet,if_neg own]
        · rw [getSetWatchdog,if_neg own]
          cases type <;> rfl
      refine ⟨unchanged.served,unchanged.inFlight,?_,unchanged.acked,fun _ => foreign⟩
      rw [foreign]
      exact unchanged.waiting

theorem flushSends (served : ∀ k, l.Served k) (flush : Flush) :
    Sends type l (l.flushQueuedPackets flush).1 (l.flushQueuedPackets flush).2.1 := by
  let refilled : SenderLoop := {l with burstBudget := l.burstBudget.refill flush.refilledAt}
  have same (k : StreamType) : Sends k l refilled [] := .none rfl (by cases k <;> rfl)
  have first (k : StreamType) : Sends k refilled (refilled.flushStream .audio "send audio RTP packet" flush 0).1
      (refilled.flushStream .audio "send audio RTP packet" flush 0).2.1 :=
    flushStreamSends (fun k => (same k).served (served k)) .audio "send audio RTP packet" flush 0
  have later := fun k => (first k).served ((same k).served (served k))
  simp only [flushQueuedPackets]
  split
  · exact (same type).trans (first type)
  · exact ((same type).trans (first type)).trans (flushStreamSends later .video "send video RTP packet" flush _)

end SenderLoop

namespace Session
variable {s t u : Session}

def Served (s : Session) : Prop := ∀ type x, s.get type = some x → x.Served

def Rests (s t : Session) : Prop := ∀ type, Option.Rel StreamState.Rests (s.get type) (t.get type)

theorem Rests.refl (s : Session) : s.Rests s := by
  intro type
  cases s.get type with
  | none => exact .none
  | some x => exact .some (.refl x)

theorem Rests.trans (first : s.Rests t) (second : t.Rests u) : s.Rests u := by
  intro type
  have one := first type
  have two := second type
  generalize s.get type = a at one
  generalize t.get type = b at one two
  generalize u.get type = c at two
  cases one with
  | none => cases two; exact .none
  | some here =>
    cases two with
    | some there => exact .some (here.trans there)

theorem Rests.served (rests : s.Rests t) (served : s.Served) : t.Served := by
  intro type y there
  have moved := rests type
  rw [there] at moved
  cases before : s.get type with
  | none =>
    rw [before] at moved
    cases moved
  | some x =>
    rw [before] at moved
    cases moved with
    | some here => exact here.served (served type x before)

theorem Rests.inFlight (rests : s.Rests t) (type : StreamType) : t.inFlight type = s.inFlight type := by
  have moved := rests type
  rw [Session.inFlight,Session.inFlight]
  generalize s.get type = a at moved
  generalize t.get type = b at moved
  cases moved with
  | none => rfl
  | some here => exact here.inFlight

theorem putRests {type : StreamType} {x y : StreamState} (here : s.get type = some x) (rests : x.Rests y) :
    s.Rests (s.put type y) := by
  intro k
  rw [putGet]
  split
  · rename_i own
    rw [own,here]
    exact .some rests
  · exact Rests.refl s k

theorem locateGet {matching : StreamState → Bool} {type : StreamType} {x : StreamState}
    (found : s.locate matching = some (type,x)) : s.get type = some x := by
  unfold locate at found
  split at found
  · obtain ⟨y,here,same⟩ := Option.map_eq_some_iff.mp found
    cases same
    exact here
  · split at found
    · obtain ⟨y,here,same⟩ := Option.map_eq_some_iff.mp found
      cases same
      exact here
    · cases found

theorem senderGet {syncSource : SyncSource} {type : StreamType} {x : StreamState}
    (found : s.findStreamBySenderSyncSource syncSource = (type,some x)) : s.get type = some x := by
  unfold findStreamBySenderSyncSource at found
  split at found
  · rename_i located
    cases found
    exact locateGet located
  · split at found <;> cases found

theorem foldRests {ι : Type} {f : Session → ι → Session} (one : ∀ (s : Session) item, s.Rests (f s item)) (items : List ι)
    (s : Session) : s.Rests (items.foldl f s) := by
  induction items generalizing s with
  | nil => exact .refl s
  | cons item rest ih => exact (one s item).trans (ih (f s item))

theorem processReceiverReportRests (receivedAt : Nat) (s : Session) (report : ReceiverReport) :
    s.Rests (s.processReceiverReport receivedAt report) := by
  unfold processReceiverReport
  split
  · exact .refl s
  · rename_i type stream found
    split
    · exact .refl s
    · exact putRests (senderGet found) (stream.updateReceiverReportRests report receivedAt)

theorem processReferenceTimeRests (s : Session) (report : ReceiverReferenceTime) :
    s.Rests (s.processReferenceTime report) := by
  unfold processReferenceTime
  split
  · exact .refl s
  · rename_i type stream found
    exact putRests (locateGet found) (stream.updateReceiverReferenceTimeRests report)

structure Fed (s : Session) (p : Processing) : Prop where
  served : p.session.Served
  count : ∀ type, p.session.inFlight type+p.events.countP (SenderEvent.acks type) = s.inFlight type
  progress : ∀ type, p.progress.get type = p.events.any (SenderEvent.acks type)

theorem ackedEvents (type k : StreamType) (ids : List Int) :
    (ids.map (SenderEvent.frameAcked type)).countP (SenderEvent.acks k) = if type = k then ids.length else 0 := by
  rw [List.countP_map]
  split
  · rename_i own
    exact List.countP_eq_length.mpr fun id _ => decide_eq_true own
  · rename_i other
    exact List.countP_eq_zero.mpr fun id _ acked => other (decide_eq_true_iff.mp acked)

theorem retransmissionEvents (type k : StreamType) (items : List StreamState.Retransmission) :
    (items.map fun r => SenderEvent.packetRetransmission type r.frameId r.packetId r.packetsQueued).countP
      (SenderEvent.acks k) = 0 := by
  rw [List.countP_map]
  exact List.countP_eq_zero.mpr fun r _ acked => Bool.false_ne_true acked

theorem anyCount (type : StreamType) (events : List SenderEvent) :
    events.any (SenderEvent.acks type) = decide (events.countP (SenderEvent.acks type) ≠ 0) := by
  rw [Bool.eq_iff_iff,decide_eq_true_iff,← Nat.pos_iff_ne_zero,List.countP_pos_iff]
  exact List.any_eq_true

theorem advancedGet (progress : AcknowledgementProgress) (type k : StreamType) :
    (advanced progress type).get k = (decide (k = type) || progress.get k) := by
  cases type <;> cases k <;> rfl

theorem putInFlight (s : Session) (type k : StreamType) (x : StreamState) :
    (s.put type x).inFlight k = if k = type then x.inFlightCount else s.inFlight k := by
  simp only [Session.inFlight,putGet]
  split <;> rfl

theorem processCastFed {p : Processing} (fed : Fed s p) (feedback : CastFeedback) : Fed s (processCast p feedback) := by
  unfold processCast
  split
  · exact fed
  · rename_i type stream found
    split
    · exact fed
    · have here := senderGet found
      have served := fed.served type stream here
      obtain ⟨_,_,queues⟩ := id served
      have retired := (StreamState.processed queues.window feedback).inFlight
      have before : p.session.inFlight type = stream.inFlightCount := by rw [Session.inFlight,here]; rfl
      have added (k : StreamType) : (p.events ++
          (stream.processCastFeedback feedback).2.1.map (SenderEvent.frameAcked type) ++
          (stream.processCastFeedback feedback).2.2.map (fun r =>
            SenderEvent.packetRetransmission type r.frameId r.packetId r.packetsQueued)).countP (SenderEvent.acks k) =
          p.events.countP (SenderEvent.acks k) +
            if type = k then (stream.processCastFeedback feedback).2.1.length else 0 := by
        rw [List.countP_append,List.countP_append,ackedEvents,retransmissionEvents,Nat.add_zero]
      dsimp only
      refine ⟨fun k x there => ?_,fun k => ?_,fun k => ?_⟩
      · rw [putGet] at there
        split at there
        · cases Option.some.inj there
          exact StreamState.stepServed (fun _ block => block) served (.castFeedback feedback)
        · exact fed.served k x there
      · have count := fed.count k
        rw [added,putInFlight]
        by_cases own : type = k
        · subst own
          rw [if_pos rfl,if_pos rfl]
          omega
        · rw [if_neg own,if_neg (Ne.symm own)]
          exact count
      · have prior := fed.progress k
        rw [anyCount] at prior
        rw [anyCount,added]
        cases acked : (stream.processCastFeedback feedback).2.1 with
        | nil =>
          simp only [List.isEmpty_nil,if_true,List.length_nil,ite_self,Nat.add_zero]
          exact prior
        | cons id rest =>
          simp only [List.isEmpty_cons,Bool.false_eq_true,if_false,advancedGet,prior,List.length_cons]
          by_cases own : type = k
          · simp [own]
          · simp [own,Ne.symm own]

theorem castFoldFed (feedbacks : List CastFeedback) {p : Processing} (fed : Fed s p) :
    Fed s (feedbacks.foldl processCast p) := by
  induction feedbacks generalizing p with
  | nil => exact fed
  | cons feedback rest ih => exact ih (processCastFed fed feedback)

theorem pictureLossAcks (s : Session) (type : StreamType) (losses : List PictureLossIndication) :
    (losses.flatMap s.pictureLossEvents).countP (SenderEvent.acks type) = 0 := by
  rw [List.countP_eq_zero]
  intro event member acked
  obtain ⟨loss,_,offered⟩ := List.mem_flatMap.mp member
  unfold pictureLossEvents at offered
  split at offered
  split at offered
  · rcases List.mem_cons.mp offered with rfl | last
    · cases acked
    · cases List.mem_singleton.mp last
      cases acked
  · cases offered

theorem processFeedbackFed (served : s.Served) (compound : CompoundRtcpPacket) (receivedAt : Nat) :
    Fed s (s.processFeedback compound receivedAt) := by
  have reported := foldRests (processReceiverReportRests receivedAt) compound.receiverReports s
  have start : Fed s ⟨compound.receiverReports.foldl (processReceiverReport receivedAt) s,⟨false,false⟩,[]⟩ :=
    ⟨reported.served served,reported.inFlight,fun type => by cases type <;> rfl⟩
  have cast := castFoldFed compound.castFeedbacks start
  have last := foldRests processReferenceTimeRests compound.receiverReferenceTimes
    (compound.castFeedbacks.foldl processCast
      ⟨compound.receiverReports.foldl (processReceiverReport receivedAt) s,⟨false,false⟩,[]⟩).session
  refine ⟨last.served cast.served,fun type => ?_,fun type => ?_⟩
  · simp only [processFeedback,List.countP_append,pictureLossAcks,Nat.add_zero]
    rw [last.inFlight]
    exact cast.count type
  · have progress := cast.progress type
    rw [anyCount] at progress ⊢
    simp only [processFeedback,List.countP_append,pictureLossAcks,Nat.add_zero]
    exact progress

end Session

end Chromiacast
