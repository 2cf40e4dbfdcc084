import Chromiacast.HandlerCases

/-! Statistics notifications. Whatever changes the state that the loop watches also
leaves a notification pending; sending packets and reports does not change it. So with
none pending the state is that of the last snapshot. -/
namespace Chromiacast
open Basis

def snapshots (emissions : List (Channel.Emission SenderEvent)) : List SessionStatistics :=
  emissions.filterMap fun emission =>
    match emission with
    | .nonterminal (.statisticsUpdated statistics) => some statistics
    | _ => none

def lastSnapshot (trace : List (Option Handled)) : Option SessionStatistics :=
  (trace.flatMap fun out => out.elim [] fun h => snapshots h.emissions).getLast?

namespace StreamState

def watched (s : StreamState) : StreamFeedbackState := s.statistics.feedbackState

theorem nextPacketWatched (s : StreamState) : s.nextPacket.2.watched = s.watched := by
  obtain ⟨_,_,written⟩ := s.nextPacketWrites
  rw [written]
  rfl

theorem recordPacketSentWatched (s : StreamState) (length : Nat) (retransmission : Bool) :
    (s.recordPacketSent length retransmission).watched = s.watched := by
  obtain ⟨_,_,_,written⟩ := s.recordPacketSentWrites length retransmission
  rw [written]
  rfl

end StreamState

theorem flushRoundsWatched (type : StreamType) (operation : String) (flush : Flush) (rounds k : Nat) (s : StreamState)
    (watchdog : AcknowledgementWatchdog) (budget : BurstBudget) :
    (flushRounds type operation flush rounds k s watchdog budget).stream.watched = s.watched := by
  induction rounds generalizing k s watchdog budget with
  | zero => rfl
  | succ rounds ih =>
    simp only [flushRounds]
    split
    · split
      · rfl
      · rename_i outbound t sent
        have popped : t.watched = s.watched := by
          rw [← s.nextPacketWatched,sent]
        split
        · exact popped
        · simp only [ih,StreamState.recordPacketSentWatched]
          exact popped
    · rfl

namespace Session

theorem putWatched {s : Session} {type : StreamType} {x y : StreamState} (here : s.get type = some x)
    (same : y.watched = x.watched) (k : StreamType) :
    (s.put type y).streamFeedbackState k = s.streamFeedbackState k := by
  unfold streamFeedbackState
  rw [putGet]
  split
  · rename_i own
    rw [own,here]
    exact congrArg some same
  · rfl

theorem statisticsWatched (s : Session) : s.sessionStatistics.feedbackState = s.sessionFeedbackState := by
  cases s with
  | mk audio video => cases audio <;> cases video <;> rfl

theorem feedbackStateExt {s t : Session} (same : ∀ type, s.streamFeedbackState type = t.streamFeedbackState type) :
    s.sessionFeedbackState = t.sessionFeedbackState := Prod.ext (same .audio) (same .video)

end Session

namespace SenderLoop
variable {l : SenderLoop}

structure Unwatched (l after : SenderLoop) : Prop where
  state : ∀ type, after.session.streamFeedbackState type = l.session.streamFeedbackState type
  pending : after.statisticsPending = l.statisticsPending

theorem Unwatched.trans {a b c : SenderLoop} (first : Unwatched a b) (second : Unwatched b c) : Unwatched a c :=
  ⟨fun type => (second.state type).trans (first.state type),second.pending.trans first.pending⟩

theorem setWatchdogUnwatched (l : SenderLoop) (type : StreamType) (watchdog : AcknowledgementWatchdog) :
    Unwatched l (l.setWatchdog type watchdog) := by
  cases type <;> exact ⟨fun _ => rfl,rfl⟩

theorem flushStreamUnwatched (l : SenderLoop) (type : StreamType) (operation : String) (flush : Flush) (k : Nat) :
    Unwatched l (l.flushStream type operation flush k).1 := by
  simp only [flushStream]
  split
  · exact ⟨fun _ => rfl,rfl⟩
  · rename_i s here
    refine Unwatched.trans ?_ (setWatchdogUnwatched _ type _)
    exact ⟨Session.putWatched here (flushRoundsWatched _ _ _ _ _ _ _ _),rfl⟩

theorem flushUnwatched (l : SenderLoop) (flush : Flush) : Unwatched l (l.flushQueuedPackets flush).1 := by
  have refilled : Unwatched l {l with burstBudget := l.burstBudget.refill flush.refilledAt} := ⟨fun _ => rfl,rfl⟩
  simp only [flushQueuedPackets]
  split
  · exact refilled.trans (flushStreamUnwatched _ _ _ _ _)
  · exact (refilled.trans (flushStreamUnwatched _ _ _ _ _)).trans (flushStreamUnwatched _ _ _ _ _)

theorem publishPending (l : SenderLoop) (changed : Bool) (now : Nat) :
    (l.publish changed now).statisticsPending = (changed || l.statisticsPending) := by
  unfold publish
  cases changed <;> cases pending : l.statisticsPending <;> simp [pending]

end SenderLoop

inductive Noticed (l : SenderLoop) (h : Handled) : Prop
  | taken (emitted : h.emissions = [.nonterminal (.statisticsUpdated l.session.sessionStatistics)])
      (session : h.loop.session = l.session)
  | left (silent : snapshots h.emissions = []) (pending : l.statisticsPending → h.loop.statisticsPending)
      (changed : h.exit = none → h.loop.session.sessionFeedbackState ≠ l.session.sessionFeedbackState →
        h.loop.statisticsPending)

section Handlers
variable {l : SenderLoop} {h : Handled}

theorem noticedUnwatched (silent : snapshots h.emissions = []) (same : SenderLoop.Unwatched l h.loop) : Noticed l h := by
  refine .left silent (fun pending => same.pending.trans pending) fun _ changed => ?_
  exact absurd (Session.feedbackStateExt same.state) changed

theorem noticedSame (silent : snapshots h.emissions = []) (loop : h.loop = l) : Noticed l h :=
  noticedUnwatched silent (loop ▸ ⟨fun _ => rfl,rfl⟩)

theorem failNoticed (silent : snapshots h.emissions = []) (pending : l.statisticsPending → h.loop.statisticsPending)
    (error : SenderError) : Noticed l (h.fail error) := by
  refine .left ?_ pending fun going => ?_
  · simp only [Handled.fail,snapshots,List.filterMap_append] at silent ⊢
    rw [silent]
    rfl
  · cases going

theorem thenFlushNoticed (silent : snapshots h.emissions = []) (pending : h.loop.statisticsPending = l.statisticsPending)
    (flush : Flush) {next : SenderLoop → SenderLoop} (session : ∀ after, (next after).session = after.session)
    (noticed : ∀ after, SenderLoop.Unwatched h.loop after → (l.statisticsPending → (next after).statisticsPending) ∧
      (after.session.sessionFeedbackState ≠ l.session.sessionFeedbackState → (next after).statisticsPending)) :
    Noticed l (SenderLoop.thenFlush h flush next) := by
  have same := SenderLoop.flushUnwatched h.loop flush
  unfold SenderLoop.thenFlush
  split
  · rename_i after sent error flushed
    rw [flushed] at same
    exact failNoticed (h := {h with loop := after, sent := sent}) silent
      (fun waiting => same.pending.trans (pending.trans waiting)) error
  · rename_i after sent _ flushed
    rw [flushed] at same
    obtain ⟨keeps,changes⟩ := noticed after same
    refine .left silent keeps fun _ changed => changes ?_
    simpa only [session] using changed

theorem acceptedNoticed (aes : BlockCipher) (type : StreamType) (stream : StreamState) (frame : EncodedFrame)
    (reply : Option Reply) (flush : Flush) (now : Nat) :
    Noticed l (SenderLoop.thenFlush {loop := l.accept aes type stream frame, reply := reply} flush fun after =>
      after.publish (l.session.streamFeedbackState type ≠
        (l.accept aes type stream frame).session.streamFeedbackState type) now) := by
  refine thenFlushNoticed ?_ ?_ flush (fun after => SenderLoop.publishSession after _ _) fun after same => ?_
  · rfl
  · rfl
  simp only [SenderLoop.publishPending,Bool.or_eq_true,decide_eq_true_eq]
  refine ⟨fun pending => .inr (same.pending.trans pending),fun changed => .inl fun unchanged => changed ?_⟩
  refine Session.feedbackStateExt fun k => (same.state k).trans ?_
  by_cases own : k = type
  · rw [own,unchanged]
  · simp only [SenderLoop.accept,Session.streamFeedbackState,Session.putGet,if_neg own]

theorem feedbackSnapshots {events : List SenderEvent} (feedback : Session.Events events) :
    snapshots (events.map .nonterminal) = [] := by
  rw [snapshots,List.filterMap_eq_nil_iff]
  intro emission member
  obtain ⟨event,offered,rfl⟩ := List.mem_map.mp member
  have ours := feedback event offered
  cases event <;> first | rfl | cases ours

theorem onFeedbackNoticed (compound : CompoundRtcpPacket) (times : FeedbackTimes) (flush : Flush) (now : Nat) :
    Noticed l (l.onFeedback compound times flush now) := by
  have advanced (l : SenderLoop) (progress : AcknowledgementProgress) (type : StreamType) :
      SenderLoop.Unwatched l (l.advance progress times type) := by
    unfold SenderLoop.advance
    split
    · exact SenderLoop.setWatchdogUnwatched l type _
    · exact ⟨fun _ => rfl,rfl⟩
  simp only [SenderLoop.onFeedback]
  refine thenFlushNoticed ?_ ?_ flush (fun after => SenderLoop.publishSession after _ _) fun after same => ?_
  · exact feedbackSnapshots (Session.processFeedbackEvents _ _ _)
  · exact ((advanced _ _ .audio).trans (advanced _ _ .video)).pending
  · have pending := (((advanced _ _ .audio).trans (advanced _ _ .video)).trans same).pending
    simp only [SenderLoop.publishPending,Bool.or_eq_true,decide_eq_true_eq]
    exact ⟨fun waiting => .inr (pending.trans waiting),fun changed => .inl (Ne.symm changed)⟩

theorem reportedUnwatched {after : SenderLoop} (reported : Reported l after) : SenderLoop.Unwatched l after := by
  induction reported with
  | none => exact ⟨fun _ => rfl,rfl⟩
  | @sent l _ type stream here compactNtp sentAt _ ih =>
    let recorded := stream.recordSenderReport compactNtp sentAt
    have first : SenderLoop.Unwatched l {l with session := l.session.put type recorded} :=
      ⟨Session.putWatched here rfl,rfl⟩
    exact first.trans ih

theorem handleNoticed (aes : BlockCipher) (remote : SocketAddr) (l : SenderLoop) (input : SenderInput) :
    Noticed l (l.handle aes remote input) := by
  have handles := l.handles aes remote input
  generalize l.handle aes remote input = h at handles ⊢
  cases handles with
  | idle => exact noticedSame rfl rfl
  | ended => exact noticedSame rfl rfl
  | rejected =>
    refine .left rfl (fun _ => ?_) fun _ _ => ?_
    · rw [SenderLoop.publishPending]
      rfl
    · rw [SenderLoop.publishPending]
      rfl
  | @accepted type stream _ frame _ _ flush now => exact acceptedNoticed aes type stream frame _ flush now
  | delayed =>
    refine .left rfl (fun pending => ?_) fun _ changed => ?_
    · simp only [SenderLoop.publishPending,pending,Bool.or_true]
    · simp only [SenderLoop.publishSession] at changed
      simp only [SenderLoop.publishPending,changed.symm,ne_eq,not_false_eq_true,decide_true,Bool.true_or]
  | burst flush =>
    refine thenFlushNoticed ?_ ?_ flush (fun after => rfl) fun after same => ?_
    · rfl
    · rfl
    · exact ⟨fun pending => same.pending.trans pending,
        fun changed => absurd (Session.feedbackStateExt same.state) changed⟩
  | feedback _ _ compound times flush now => exact onFeedbackNoticed compound times flush now
  | malformed => exact noticedSame rfl rfl
  | receiveFailed => exact failNoticed (h := {loop := l}) rfl id _
  | reported sent => exact noticedUnwatched rfl (reportedUnwatched sent)
  | reportFailed sent _ _ error =>
    exact failNoticed rfl (fun pending => (reportedUnwatched sent).pending.trans pending) error
  | snapshot => exact .taken rfl rfl
  | polled => exact noticedUnwatched rfl ⟨fun _ => rfl,rfl⟩
  | timedOut => exact noticedUnwatched rfl ⟨fun _ => rfl,rfl⟩

end Handlers

section Runs
variable {aes : BlockCipher} {remote : SocketAddr} {session : Session}

theorem lastSnapshotSnoc (trace : List (Option Handled)) (out : Option Handled) :
    lastSnapshot (trace ++ [out]) = (out.elim [] fun h => snapshots h.emissions).getLast?.or (lastSnapshot trace) := by
  simp only [lastSnapshot,List.flatMap_append,List.flatMap_singleton,List.getLast?_append]

def Published (session : Session) (w : SenderRun) (trace : List (Option Handled)) : Prop :=
  w.result = none → w.loop.statisticsPending = false →
    w.loop.session.sessionFeedbackState =
      (lastSnapshot trace).elim session.sessionFeedbackState SessionStatistics.feedbackState

theorem stepPublished {w after : SenderRun} {action : SenderAction} {out : Option Handled} {trace : List (Option Handled)}
    (taken : w.StepTaken aes remote action after out) (published : Published session w trace) :
    Published session after (trace ++ [out]) := by
  intro going clear
  rw [lastSnapshotSnoc]
  cases taken with
  | read count => exact published going clear
  | ended input reads returned => exact published going clear
  | handled input reads running h handled =>
    have noticed : Noticed w.loop h := handled ▸ handleNoticed aes remote w.loop input
    cases noticed with
    | taken emitted same =>
      have watched := w.loop.session.statisticsWatched
      simp only [Option.elim_some,emitted,snapshots,List.filterMap_cons,List.filterMap_nil,List.getLast?_singleton,
        Option.some_or,watched,same]
    | left silent pending changed =>
      simp only [Option.elim_some,silent,List.getLast?_nil,Option.none_or]
      have quiet : w.loop.statisticsPending = false := by
        by_contra waiting
        rw [pending (by simpa using waiting)] at clear
        cases clear
      rw [← published running quiet]
      by_contra other
      rw [changed going other] at clear
      cases clear

/- Snapshots taken whose event found the channel full count as taken. -/
theorem statisticsMissNothing (aes : BlockCipher) (remote : SocketAddr) (session : Session) (now : Nat)
    (actions : List SenderAction) :
    let final := SenderRun.run aes remote session now actions
    (final.1.result = none → final.1.loop.statisticsPending = false →
      final.1.loop.session.sessionFeedbackState =
        (lastSnapshot final.2).elim session.sessionFeedbackState SessionStatistics.feedbackState) ∧
    ∀ past input reads rest, actions = past ++ .take input reads::rest →
      let before := (SenderRun.run aes remote session now past).1
      before.result = none →
        let h := before.loop.handle aes remote input
        (h.exit = none → h.loop.session.sessionFeedbackState ≠ before.loop.session.sessionFeedbackState →
          h.loop.statisticsPending = true) ∧
        ∀ statistics, .nonterminal (.statisticsUpdated statistics) ∈ h.emissions →
          statistics = before.loop.session.sessionStatistics ∧
          statistics.feedbackState = before.loop.session.sessionFeedbackState ∧
          h.loop.session = before.loop.session := by
  intro final
  have published : Published session final.1 final.2 :=
    Machine.runTrace (SenderRun.step aes remote) (R := Published session) (fun _ _ => rfl)
      (fun w trace action published => stepPublished (w.stepTaken aes remote action) published) actions
  refine ⟨published,?_⟩
  intro past input reads rest _ before running h
  have noticed : Noticed before.loop h := handleNoticed aes remote before.loop input
  cases noticed with
  | taken emitted same =>
    refine ⟨fun _ changed => absurd (by rw [same]) changed,fun statistics member => ?_⟩
    rw [emitted,List.mem_singleton] at member
    cases member
    exact ⟨rfl,before.loop.session.statisticsWatched,same⟩
  | left silent _ changed =>
    refine ⟨changed,fun statistics member => ?_⟩
    have found : statistics ∈ snapshots h.emissions := List.mem_filterMap.mpr ⟨_,member,rfl⟩
    rw [silent] at found
    cases found

end Runs

end Chromiacast
