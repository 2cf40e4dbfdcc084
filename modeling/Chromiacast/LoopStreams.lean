import Chromiacast.Basis.Labels
import Chromiacast.HandlerWatch

/-! The event loop refines its streams. What a run of the loop answers, reports and transmits for one
stream is what a run of that stream's own operations shows, in the same order; only the packet whose
transmission failed is missing, and the loop ends with it. -/
namespace Chromiacast
open Basis

/- What can be seen of a stream. A packet is handed out before it is sent, and recorded afterwards. -/
inductive StreamLabel where
  | accepted (id : Int) (frame : EncodedFrame)
  | rejected (error : EnqueueError)
  | acknowledged (id : Int)
  | renewed (frameId : Int) (packetId : UInt16) (packetsQueued : Nat)
  | handed (packet : OutboundPacket)
  | recorded (packetSize : Nat) (retransmission : Bool)
  deriving DecidableEq, Repr

namespace StreamState

def label : Operation → Output → List StreamLabel
  | _,.accepted id frame _ => [.accepted id frame]
  | _,.rejected error => [.rejected error]
  | _,.processed ids retransmissions =>
    ids.map .acknowledged ++ retransmissions.map fun r => .renewed r.frameId r.packetId r.packetsQueued
  | _,.outbound packet => packet.toList.map .handed
  | .recordPacketSent packetSize retransmission,.done => [.recorded packetSize retransmission]
  | _,.done => []

abbrev Traces (aes : BlockCipher) : StreamState → List StreamLabel → StreamState → Prop :=
  Machine.Traces (step aes) label

end StreamState

def SenderEvent.label (type : StreamType) : SenderEvent → List StreamLabel
  | .frameAcked stream id => if stream = type then [.acknowledged id] else []
  | .packetRetransmission stream frameId packetId packetsQueued =>
    if stream = type then [.renewed frameId packetId packetsQueued] else []
  | _ => []

def emissionLabel (type : StreamType) : Channel.Emission SenderEvent → List StreamLabel
  | .nonterminal event => event.label type
  | .terminal event => event.label type

def Transmission.label (type : StreamType) (t : Transmission) : List StreamLabel :=
  if t.stream = type then
    [.handed t.outbound,.recorded t.outbound.packet.data.length t.outbound.retransmission]
  else []

def replyLabel (type : StreamType) : SenderInput → Option Reply → List StreamLabel
  | .enqueueFrame stream frame _ _,some (.enqueued result) =>
    if stream = type then
      match result with
      | .ok id => [.accepted id frame]
      | .error error => [.rejected error]
    else []
  | _,_ => []

def Handled.labels (type : StreamType) (input : SenderInput) (h : Handled) : List StreamLabel :=
  replyLabel type input h.reply ++ h.emissions.flatMap (emissionLabel type) ++ h.sent.flatMap (Transmission.label type)

namespace Session
variable {aes : BlockCipher} {type : StreamType} {s t u : Session}

def Traces (aes : BlockCipher) (type : StreamType) (s : Session) (labels : List StreamLabel) (t : Session) : Prop :=
  ∀ x, s.get type = some x → ∃ y, t.get type = some y ∧ x.Traces aes labels y

theorem Traces.same (unchanged : t.get type = s.get type) : Traces aes type s [] t :=
  fun x here => ⟨x,unchanged.trans here,.refl x⟩

theorem Traces.trans {first second : List StreamLabel} (before : Traces aes type s first t)
    (after : Traces aes type t second u) : Traces aes type s (first ++ second) u := by
  intro x here
  obtain ⟨y,middle,one⟩ := before x here
  obtain ⟨z,there,two⟩ := after y middle
  exact ⟨z,there,one.trans two⟩

variable (aes type) in
theorem putTraces {k : StreamType} {x : StreamState} (here : s.get k = some x) (operation : StreamState.Operation) :
    Traces aes type s (if k = type then StreamState.label operation (StreamState.step aes x operation).2 else [])
      (s.put k (StreamState.step aes x operation).1) := by
  by_cases own : k = type
  · subst own
    rw [if_pos rfl]
    intro y there
    cases Option.some.inj (here.symm.trans there)
    exact ⟨_,by rw [putGet,if_pos rfl],.one x operation⟩
  · rw [if_neg own]
    exact .same (by rw [putGet,if_neg (Ne.symm own)])

theorem quietTraces {k : StreamType} {x : StreamState} (here : s.get k = some x) (operation : StreamState.Operation)
    (quiet : StreamState.label operation (StreamState.step aes x operation).2 = []) :
    Traces aes type s [] (s.put k (StreamState.step aes x operation).1) := by
  have traces := putTraces aes type here operation
  rwa [quiet,ite_self] at traces

theorem foldTraces {ι : Type} {f : Session → ι → Session} (one : ∀ (s : Session) item, Traces aes type s [] (f s item))
    (items : List ι) (s : Session) : Traces aes type s [] (items.foldl f s) := by
  induction items generalizing s with
  | nil => exact .same rfl
  | cons item rest ih => exact (one s item).trans (ih (f s item))

theorem receiverReportTraces (receivedAt : Nat) (s : Session) (report : ReceiverReport) :
    Traces aes type s [] (s.processReceiverReport receivedAt report) := by
  unfold processReceiverReport
  split
  · exact .same rfl
  · rename_i k stream found
    split
    · exact .same rfl
    · exact quietTraces (senderGet found) (.receiverReport report receivedAt) rfl

theorem referenceTimeTraces (s : Session) (report : ReceiverReferenceTime) :
    Traces aes type s [] (s.processReferenceTime report) := by
  unfold processReferenceTime
  split
  · exact .same rfl
  · rename_i k stream found
    exact quietTraces (locateGet found) (.receiverReferenceTime report) rfl

theorem pictureLossLabels (s : Session) (type : StreamType) (losses : List PictureLossIndication) :
    (losses.flatMap s.pictureLossEvents).flatMap (SenderEvent.label type) = [] := by
  rw [List.flatMap_eq_nil_iff]
  intro event member
  obtain ⟨loss,_,offered⟩ := List.mem_flatMap.mp member
  unfold pictureLossEvents at offered
  split at offered
  split at offered
  · rcases List.mem_cons.mp offered with rfl | last
    · rfl
    · cases List.mem_singleton.mp last
      rfl
  · cases offered

theorem castEventLabels (type k : StreamType) (ids : List Int) (items : List StreamState.Retransmission) :
    (ids.map (SenderEvent.frameAcked k) ++ items.map fun r =>
        SenderEvent.packetRetransmission k r.frameId r.packetId r.packetsQueued).flatMap (SenderEvent.label type) =
      if k = type then ids.map .acknowledged ++ items.map fun r => .renewed r.frameId r.packetId r.packetsQueued
      else [] := by
  rw [List.flatMap_append,List.flatMap_map,List.flatMap_map]
  by_cases own : k = type
  · simp [SenderEvent.label,own,List.map_eq_flatMap]
  · simp [SenderEvent.label,own]

theorem castTraces {p : Processing} (feedback : CastFeedback)
    (before : Traces aes type s (p.events.flatMap (SenderEvent.label type)) p.session) :
    Traces aes type s ((processCast p feedback).events.flatMap (SenderEvent.label type))
      (processCast p feedback).session := by
  unfold processCast
  split
  · exact before
  · rename_i k stream found
    split
    · exact before
    · dsimp only
      rw [List.append_assoc,List.flatMap_append,castEventLabels]
      exact before.trans (putTraces aes type (senderGet found) (.castFeedback feedback))

theorem castFoldTraces (feedbacks : List CastFeedback) {p : Processing}
    (before : Traces aes type s (p.events.flatMap (SenderEvent.label type)) p.session) :
    Traces aes type s ((feedbacks.foldl processCast p).events.flatMap (SenderEvent.label type))
      (feedbacks.foldl processCast p).session := by
  induction feedbacks generalizing p with
  | nil => exact before
  | cons feedback rest ih => exact ih (castTraces feedback before)

theorem feedbackTraces (s : Session) (compound : CompoundRtcpPacket) (receivedAt : Nat) :
    Traces aes type s ((s.processFeedback compound receivedAt).events.flatMap (SenderEvent.label type))
      (s.processFeedback compound receivedAt).session := by
  have reported : Traces aes type s [] _ := foldTraces (receiverReportTraces receivedAt) compound.receiverReports s
  have cast := castFoldTraces (p := ⟨_,⟨false,false⟩,[]⟩) compound.castFeedbacks reported
  have last := cast.trans (foldTraces referenceTimeTraces compound.receiverReferenceTimes _)
  rw [List.append_nil] at last
  simp only [processFeedback,List.flatMap_append,pictureLossLabels,List.append_nil]
  exact last

theorem delayTraces {delay : Nat} (set : s.setTargetPlayoutDelay delay = (.ok (),t)) : Traces aes type s [] t := by
  unfold setTargetPlayoutDelay at set
  split at set
  · cases set
  · cases set
    intro x here
    have mapped : (Session.mk (s.audio.map fun stream => stream.setTargetPlayoutDelay delay)
        (s.video.map fun stream => stream.setTargetPlayoutDelay delay)).get type =
          some (x.setTargetPlayoutDelay delay) := by
      cases type <;> simp only [get] at here ⊢ <;> rw [here] <;> rfl
    exact ⟨_,mapped,Machine.Traces.one x (StreamState.Operation.setTargetPlayoutDelay delay)⟩

theorem reportedTraces {l after : SenderLoop} (reported : Reported l after) :
    Traces aes type l.session [] after.session := by
  induction reported with
  | none => exact .same rfl
  | sent here compactNtp sentAt _ ih => exact (quietTraces here (.recordSenderReport compactNtp sentAt) rfl).trans ih

end Session

def Unsent (lost : List StreamLabel) (failed : Prop) : Prop := lost = [] ∨ failed ∧ ∃ packet, lost = [.handed packet]

namespace Unsent
variable {lost : List StreamLabel} {failed failed' : Prop}

theorem imp (unsent : Unsent lost failed) (later : failed → failed') : Unsent lost failed' :=
  Or.imp_right (And.imp_left later) unsent

theorem nothing (unsent : Unsent lost failed) (succeeded : ¬ failed) : lost = [] :=
  unsent.resolve_right fun packet => succeeded packet.1

end Unsent

namespace StreamState
variable {aes : BlockCipher} {s t : StreamState} {outbound : OutboundPacket}

theorem handedTraces (next : s.nextPacket = (some outbound,t)) : s.Traces aes [.handed outbound] t := by
  have stepped : s.Traces aes (s.nextPacket.1.toList.map .handed) s.nextPacket.2 :=
    Machine.Traces.one s Operation.nextPacket
  rw [next] at stepped
  exact stepped

theorem sentTraces (next : s.nextPacket = (some outbound,t)) (type : StreamType) (sentAt : Nat) :
    s.Traces aes (Transmission.label type ⟨type,outbound,sentAt⟩)
      (t.recordPacketSent outbound.packet.data.length outbound.retransmission) := by
  have recorded : t.Traces aes [.recorded outbound.packet.data.length outbound.retransmission] _ :=
    Machine.Traces.one t (Operation.recordPacketSent outbound.packet.data.length outbound.retransmission)
  rw [Transmission.label,if_pos rfl]
  exact (handedTraces next).trans recorded

end StreamState

section Flush
variable {aes : BlockCipher} {type : StreamType}

theorem flushRoundsTraces (aes : BlockCipher) (type : StreamType) (operation : String) (flush : Flush)
    (rounds k : Nat) (s : StreamState) (watchdog : AcknowledgementWatchdog) (budget : BurstBudget) :
    let f := flushRounds type operation flush rounds k s watchdog budget
    (∀ t ∈ f.sent, t.stream = type) ∧ ∃ lost, Unsent lost (f.result ≠ .ok ()) ∧
      s.Traces aes (f.sent.flatMap (Transmission.label type) ++ lost) f.stream := by
  induction rounds generalizing k s watchdog budget with
  | zero => exact ⟨by simp [flushRounds],[],.inl rfl,.refl s⟩
  | succ rounds ih =>
    simp only [flushRounds]
    cases budget.hasCredit with
    | false => exact ⟨by simp,[],.inl rfl,.refl s⟩
    | true =>
      simp only [if_true]
      cases next : s.nextPacket with
      | mk outbound t =>
        cases outbound with
        | none => exact ⟨by simp,[],.inl rfl,.refl s⟩
        | some outbound =>
          simp only
          cases sendDatagram outbound.packet.data operation (flush.sendTo k outbound.packet.data) with
          | error error =>
            exact ⟨by simp,[.handed outbound],.inr ⟨by simp,outbound,rfl⟩,StreamState.handedTraces next⟩
          | ok _ =>
            obtain ⟨own,lost,unsent,rest⟩ := ih (k+1)
              (t.recordPacketSent outbound.packet.data.length outbound.retransmission)
              (watchdog.packetSent (flush.sentAt k)) (budget.consume outbound.packet.data.length)
            refine ⟨?_,lost,unsent,?_⟩
            · intro transmission member
              rcases List.mem_cons.mp member with rfl | later
              · rfl
              · exact own transmission later
            · rw [List.flatMap_cons,List.append_assoc]
              exact (StreamState.sentTraces next type _).trans rest

variable (aes type) in
theorem flushStreamTraces (l : SenderLoop) (k : StreamType) (operation : String) (flush : Flush) (first : Nat) :
    let f := l.flushStream k operation flush first
    ∃ lost, Unsent lost (f.2.2 ≠ .ok ()) ∧
      Session.Traces aes type l.session (f.2.1.flatMap (Transmission.label type) ++ lost) f.1.session := by
  simp only [SenderLoop.flushStream]
  split
  · exact ⟨[],.inl rfl,.same rfl⟩
  · rename_i s here
    obtain ⟨own,lost,unsent,traces⟩ := flushRoundsTraces aes k operation flush s.queued first s (l.watchdog k)
      l.burstBudget
    generalize flushRounds k operation flush s.queued first s (l.watchdog k) l.burstBudget = f at own unsent traces
    simp only [SenderLoop.setWatchdogSession]
    by_cases same : k = type
    · subst same
      refine ⟨lost,unsent,fun x there => ?_⟩
      cases Option.some.inj (here.symm.trans there)
      exact ⟨_,by rw [Session.putGet,if_pos rfl],traces⟩
    · have foreign : f.sent.flatMap (Transmission.label type) = [] := by
        rw [List.flatMap_eq_nil_iff]
        intro transmission member
        exact if_neg fun equal => same ((own transmission member).symm.trans equal)
      rw [foreign]
      exact ⟨[],.inl rfl,.same (by rw [Session.putGet,if_neg (Ne.symm same)])⟩

variable (aes type) in
theorem flushTraces (l : SenderLoop) (flush : Flush) :
    let f := l.flushQueuedPackets flush
    ∃ lost, Unsent lost (f.2.2 ≠ .ok ()) ∧
      Session.Traces aes type l.session (f.2.1.flatMap (Transmission.label type) ++ lost) f.1.session := by
  obtain ⟨lost,unsent,audio⟩ := flushStreamTraces aes type
    {l with burstBudget := l.burstBudget.refill flush.refilledAt} .audio "send audio RTP packet" flush 0
  simp only [SenderLoop.flushQueuedPackets]
  generalize SenderLoop.flushStream _ .audio _ flush 0 = first at unsent audio ⊢
  obtain ⟨middle,sent,result⟩ := first
  cases result with
  | error error => exact ⟨lost,unsent.imp fun _ => by simp,audio⟩
  | ok _ =>
    have nothing : lost = [] := unsent.nothing fun failed => failed rfl
    obtain ⟨lost',unsent',video⟩ := flushStreamTraces aes type middle .video "send video RTP packet" flush
      sent.length
    refine ⟨lost',unsent',?_⟩
    rw [nothing,List.append_nil] at audio
    simp only [List.flatMap_append,List.append_assoc]
    exact audio.trans video

end Flush

def Handled.Refines (aes : BlockCipher) (type : StreamType) (l : SenderLoop) (input : SenderInput) (h : Handled) :
    Prop :=
  ∃ lost, Unsent lost (∃ error, h.exit = some (.error error)) ∧
    Session.Traces aes type l.session (h.labels type input ++ lost) h.loop.session

section Handlers
variable {aes : BlockCipher} {type : StreamType} {l : SenderLoop} {input : SenderInput} {h : Handled}

theorem silentRefines (silent : h.labels type input = [])
    (traces : Session.Traces aes type l.session [] h.loop.session) : h.Refines aes type l input :=
  ⟨[],.inl rfl,by rw [silent]; exact traces⟩

theorem failLabels (error : SenderError) : (h.fail error).labels type input = h.labels type input := by
  simp [Handled.labels,Handled.fail,emitFatal,emissionLabel,SenderEvent.label]

theorem thenFlushRefines (unsent : h.sent = [])
    (before : Session.Traces aes type l.session (h.labels type input) h.loop.session) (flush : Flush)
    {next : SenderLoop → SenderLoop} (kept : ∀ after, (next after).session = after.session) :
    (SenderLoop.thenFlush h flush next).Refines aes type l input := by
  obtain ⟨lost,missing,traces⟩ := flushTraces aes type h.loop flush
  have whole := before.trans traces
  rw [← List.append_assoc] at whole
  have labels (after : SenderLoop) (sent : List Transmission) :
      Handled.labels type input {h with loop := after, sent := sent} =
        h.labels type input ++ sent.flatMap (Transmission.label type) := by
    simp [Handled.labels,unsent]
  unfold SenderLoop.thenFlush
  split
  · rename_i after sent error flushed
    rw [flushed] at missing whole
    refine ⟨lost,missing.imp fun _ => ⟨error,rfl⟩,?_⟩
    rw [failLabels,labels]
    exact whole
  · rename_i after sent _ flushed
    rw [flushed] at missing whole
    have nothing : lost = [] := missing.nothing fun failed => failed rfl
    refine ⟨[],.inl rfl,?_⟩
    rw [labels,← nothing]
    simp only [kept]
    exact whole

theorem enqueueRefines (aes : BlockCipher) (type : StreamType) (l : SenderLoop) (k : StreamType) (frame : EncodedFrame)
    (flush : Flush) (now : Nat) :
    (l.onEnqueueFrame aes k frame flush now).Refines aes type l (.enqueueFrame k frame flush now) := by
  simp only [SenderLoop.onEnqueueFrame]
  split
  · rename_i absent
    refine ⟨[],.inl rfl,fun x here => ?_⟩
    have other : k ≠ type := fun same => by rw [same,here] at absent; cases absent
    exact ⟨x,here,by simpa [Handled.labels,replyLabel,other] using .refl x⟩
  · rename_i stream here
    have stepped := Session.putTraces aes type here (.enqueueFrame frame)
    rcases StreamState.enqueueCases aes stream frame with ⟨_,_,accepted⟩ | ⟨error,rejected⟩
    · simp only [StreamState.step,accepted,StreamState.label] at stepped
      simp only [accepted]
      refine thenFlushRefines rfl ?_ flush fun after => SenderLoop.publishSession after _ _
      simpa [Handled.labels,replyLabel] using stepped
    · simp only [StreamState.step,rejected,StreamState.rejectFrame,StreamState.label] at stepped
      simp only [rejected,StreamState.rejectFrame]
      refine ⟨[],.inl rfl,?_⟩
      rw [SenderLoop.publishSession]
      simpa [Handled.labels,replyLabel] using stepped

theorem handleRefines (aes : BlockCipher) (remote : SocketAddr) (type : StreamType) (l : SenderLoop)
    (input : SenderInput) : (l.handle aes remote input).Refines aes type l input := by
  by_cases enqueue : ∃ k frame flush now, input = .enqueueFrame k frame flush now
  · obtain ⟨k,frame,flush,now,rfl⟩ := enqueue
    exact enqueueRefines aes type l k frame flush now
  · have unanswered (reply : Option Reply) : replyLabel type input reply = [] := by
      cases input with
      | enqueueFrame k frame flush now => exact absurd ⟨k,frame,flush,now,rfl⟩ enqueue
      | _ => rfl
    have handles := l.handles aes remote input
    generalize l.handle aes remote input = h at handles ⊢
    cases handles with
    | rejected | accepted => exact absurd ⟨_,_,_,_,rfl⟩ enqueue
    | idle _ reply => exact silentRefines (by simp [Handled.labels,unanswered]) (.same rfl)
    | ended _ reply => exact silentRefines (by simp [Handled.labels,unanswered]) (.same rfl)
    | delayed set now =>
      refine silentRefines (by simp [Handled.labels,replyLabel]) ?_
      rw [SenderLoop.publishSession]
      exact Session.delayTraces set
    | burst flush => exact thenFlushRefines rfl (.same rfl) flush fun _ => rfl
    | feedback data source compound times flush now =>
      refine thenFlushRefines rfl ?_ flush fun after => SenderLoop.publishSession after _ _
      have labels (events : List SenderEvent) : (events.map Channel.Emission.nonterminal).flatMap (emissionLabel type) =
          events.flatMap (SenderEvent.label type) := List.flatMap_map ..
      simp only [Handled.labels,replyLabel,labels,advanceSession,List.nil_append,List.flatMap_nil,List.append_nil]
      exact Session.feedbackTraces l.session compound times.receivedAt
    | malformed _ error =>
      exact silentRefines (by simp [Handled.labels,unanswered,emissionLabel,SenderEvent.label]) (.same rfl)
    | receiveFailed interrupted message =>
      exact silentRefines (by rw [failLabels]; simp [Handled.labels,replyLabel]) (.same rfl)
    | reported sent audio video =>
      exact silentRefines (by simp [Handled.labels,replyLabel]) (Session.reportedTraces sent)
    | reportFailed sent audio video error =>
      exact silentRefines (by rw [failLabels]; simp [Handled.labels,replyLabel]) (Session.reportedTraces sent)
    | snapshot pending now =>
      exact silentRefines (by simp [Handled.labels,replyLabel,emissionLabel,SenderEvent.label]) (.same rfl)
    | polled audioAt videoAt => exact silentRefines (by simp [Handled.labels,replyLabel]) (.same rfl)
    | timedOut audioAt videoAt =>
      exact silentRefines (by simp [Handled.labels,replyLabel,emissionLabel,SenderEvent.label]) (.same rfl)

end Handlers

def SenderAction.labels (type : StreamType) : SenderAction → Option Handled → List StreamLabel
  | .take input _,some h => h.labels type input
  | _,_ => []

def Refined (aes : BlockCipher) (type : StreamType) (s : StreamState) (w : SenderRun) (labels : List StreamLabel) :
    Prop :=
  ∃ t lost, w.loop.session.get type = some t ∧ s.Traces aes (labels ++ lost) t ∧
    Unsent lost (∃ error, w.result = some (.error error))

theorem stepRefined {aes : BlockCipher} {remote : SocketAddr} {type : StreamType} {s : StreamState} {w : SenderRun}
    {labels : List StreamLabel} (refined : Refined aes type s w labels) (action : SenderAction) :
    Refined aes type s (w.step aes remote action).1
      (labels ++ action.labels type (w.step aes remote action).2) := by
  obtain ⟨t,lost,here,traces,unsent⟩ := refined
  have taken := w.stepTaken aes remote action
  generalize w.step aes remote action = outcome at taken ⊢
  obtain ⟨after,out⟩ := outcome
  cases taken with
  | read count => exact ⟨t,lost,here,by simpa [SenderAction.labels] using traces,unsent⟩
  | ended input reads returned => exact ⟨t,lost,here,by simpa [SenderAction.labels] using traces,unsent⟩
  | handled input reads running h handled =>
    have nothing : lost = [] := by
      refine unsent.nothing fun failed => ?_
      obtain ⟨error,ended⟩ := failed
      rw [running] at ended
      cases ended
    obtain ⟨lost',unsent',moved⟩ := handled ▸ handleRefines aes remote type w.loop input
    obtain ⟨u,there,later⟩ := moved t here
    rw [nothing,List.append_nil] at traces
    refine ⟨u,lost',there,?_,unsent'⟩
    rw [List.append_assoc]
    exact traces.trans later

theorem runRefined (aes : BlockCipher) (remote : SocketAddr) (session : Session) (now : Nat)
    (actions : List SenderAction) {type : StreamType} {s : StreamState} (here : session.get type = some s) :
    let r := SenderRun.run aes remote session now actions
    Refined aes type s r.1 ((actions.zip r.2).flatMap fun entry => entry.1.labels type entry.2) := by
  have start : Refined aes type s (SenderRun.new session now) [] := ⟨s,[],here,.refl s,.inl rfl⟩
  exact Machine.runHistory (SenderRun.step aes remote)
    (R := fun w history => Refined aes type s w (history.flatMap fun entry => entry.1.labels type entry.2)) start
    (fun w history action refined => by
      rw [List.flatMap_append,List.flatMap_singleton]
      exact stepRefined refined action) actions

theorem loopRefinesStream (aes : BlockCipher) (remote : SocketAddr) (session : Session) (now : Nat)
    (actions : List SenderAction) (type : StreamType) (s : StreamState) (here : session.get type = some s) :
    let r := SenderRun.run aes remote session now actions
    ∃ operations t lost, r.1.loop.session.get type = some t ∧
      (Machine.run (StreamState.step aes) s operations).1 = t ∧
      Machine.shown (StreamState.step aes) StreamState.label s operations =
        (actions.zip r.2).flatMap (fun entry => entry.1.labels type entry.2) ++ lost ∧
      (lost = [] ∨ (∃ error, r.1.result = some (.error error)) ∧ ∃ packet, lost = [.handed packet]) := by
  intro r
  obtain ⟨t,lost,there,⟨operations,reached,shown⟩,unsent⟩ := runRefined aes remote session now actions here
  exact ⟨operations,t,lost,there,reached,shown,unsent⟩

def exampleStreams : Session := ⟨some (StreamState.new StreamState.exampleParameters 0),none⟩

def exampleTransport : Flush := ⟨0,fun _ data => .ok data.length,fun _ => 0⟩

def exampleSending : List SenderAction :=
  [.take (.enqueueFrame .audio ⟨.keyFrame,[1],0,0,none⟩ exampleTransport 0) fun _ => ⟨0,0⟩,
    .take (.enqueueFrame .audio ⟨.delta,[2],1,0,none⟩ exampleTransport 0) fun _ => ⟨0,0⟩]

theorem exampleRefined :
    let s := StreamState.new StreamState.exampleParameters 0
    let r := SenderRun.run (fun _ block => block) (.v4 0 0) exampleStreams 0 exampleSending
    let labels := (exampleSending.zip r.2).flatMap fun entry => entry.1.labels .audio entry.2
    labels.length = 6 ∧ ∃ operations t, r.1.loop.session.get .audio = some t ∧
      (Machine.run (StreamState.step fun _ block => block) s operations).1 = t ∧
      Machine.shown (StreamState.step fun _ block => block) StreamState.label s operations = labels := by
  intro s r labels
  obtain ⟨operations,t,lost,there,reached,shown,unsent⟩ := loopRefinesStream (fun _ block => block) (.v4 0 0)
    exampleStreams 0 exampleSending .audio _ rfl
  have running : r.1.result = none := by decide +kernel
  rcases unsent with rfl | ⟨⟨error,ended⟩,_⟩
  · exact ⟨by decide +kernel,operations,t,there,reached,shown.trans (List.append_nil _)⟩
  · exact absurd (running.symm.trans ended) (by simp)

end Chromiacast
