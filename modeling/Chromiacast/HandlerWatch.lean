import Chromiacast.HandlerCases
import Chromiacast.Watchdog

/-! What each handler of the sender's loop does to the watch on a stream. -/
namespace Chromiacast
open Basis

structure Watches (type : StreamType) (l : SenderLoop) (h : Handled) : Prop where
  served : h.loop.session.Served
  waiting : h.exit = none → (h.loop.watchdog type).waitingSince =
    if h.loop.inFlight type = 0 then none else (h.notes type).foldl Note.apply (l.watchdog type).waitingSince
  acked : h.exit = none →
    (h.loop.watchdog type).hasAcknowledged = ((l.watchdog type).hasAcknowledged || h.acknowledges type)
  kept : h.exit = none → h.acknowledges type = false → l.inFlight type ≤ h.loop.inFlight type

structure SenderLoop.Ready (l : SenderLoop) : Prop where
  served : l.session.Served
  idle : ∀ type, l.inFlight type = 0 → (l.watchdog type).waitingSince = none

section Handlers
variable {type : StreamType} {l : SenderLoop} {h : Handled}

theorem Handled.quietNotes (silent : h.acknowledges type = false) (unsent : h.sent = []) : h.notes type = [] := by
  simp only [notes,silent,unsent,Bool.false_eq_true,if_false]
  rfl

theorem restWatches (ready : l.Ready) (rests : l.session.Rests h.loop.session)
    (watchdog : h.loop.watchdog type = l.watchdog type) (silent : h.acknowledges type = false) (unsent : h.sent = []) :
    Watches type l h := by
  have count : h.loop.inFlight type = l.inFlight type := rests.inFlight type
  refine ⟨rests.served ready.served,fun _ => ?_,fun _ => ?_,fun _ _ => count.ge⟩
  · rw [watchdog,count,h.quietNotes silent unsent]
    split
    · rename_i empty
      exact ready.idle type empty
    · rfl
  · rw [watchdog,silent,Bool.or_false]

theorem sameWatches (ready : l.Ready) (loop : h.loop = l) (silent : h.acknowledges type = false) (unsent : h.sent = []) :
    Watches type l h :=
  restWatches ready (loop ▸ .refl _) (by rw [loop]) silent unsent

theorem failWatches (served : h.loop.session.Served) (error : SenderError) : Watches type l (h.fail error) :=
  ⟨served,fun going => (by cases going),fun going => (by cases going),fun going => (by cases going)⟩

theorem thenFlushWatches (watches : Watches type l h) (exit : h.exit = none) (unsent : h.sent = []) (flush : Flush)
    {next : SenderLoop → SenderLoop} (session : ∀ after, (next after).session = after.session)
    (watchdog : ∀ after, (next after).watchdog type = after.watchdog type) :
    Watches type l (SenderLoop.thenFlush h flush next) := by
  have sends : SenderLoop.Sends type h.loop _ _ := SenderLoop.flushSends watches.served flush
  have later (k : StreamType) : SenderLoop.Sends k h.loop _ _ := SenderLoop.flushSends watches.served flush
  unfold SenderLoop.thenFlush
  split
  · rename_i after sent error flushed
    refine failWatches (h := {h with loop := after, sent := sent}) (fun k x there => ?_) error
    refine (later k).served (watches.served k) x ?_
    rw [flushed]
    exact there
  · rename_i after sent _ flushed
    rw [flushed] at sends
    have notes : Handled.notes {h with loop := next after, sent := sent} type = h.notes type ++ sentNotes type sent := by
      simp only [Handled.notes,Handled.acknowledges,unsent]
      simp [sentNotes]
    have count : (next after).inFlight type = h.loop.inFlight type := by
      rw [← sends.inFlight]
      exact congrArg (fun s : Session => s.inFlight type) (session after)
    refine ⟨fun k x there => ?_,fun _ => ?_,fun _ => ?_,fun _ silent => ?_⟩
    · rw [session] at there
      refine (later k).served (watches.served k) x ?_
      rw [flushed]
      exact there
    · rw [notes,watchdog,count,sends.waiting,watches.waiting exit,List.foldl_append]
      split
      · rename_i empty
        rw [sends.idle empty]
        rfl
      · rfl
    · rw [watchdog,sends.acked]
      exact watches.acked exit
    · rw [count]
      exact watches.kept exit silent

theorem rejectRests (aes : BlockCipher) {s : StreamState} {frame : EncodedFrame} {error : EnqueueError}
    (rejected : s.enqueueFrame aes frame = s.rejectFrame error) : s.Rests (s.enqueueFrame aes frame).2 := by
  refine ⟨fun served => ?_,?_⟩
  · have stepped := StreamState.stepServed aes served (.enqueueFrame frame)
    simp only [StreamState.step,rejected,StreamState.rejectFrame] at stepped ⊢
    exact stepped
  · rw [rejected]
    rfl

theorem acceptWatches (ready : l.Ready) (aes : BlockCipher) {k : StreamType} {s : StreamState} {frame : EncodedFrame}
    (here : l.session.get k = some s) (room : s.inFlightIdSpan < maxUnackedFrames)
    (accepted : s.enqueueFrame aes frame = (.ok s.nextFrameId,s.acceptFrame aes frame)) (reply : Option Reply) :
    Watches type l {loop := {l with session := l.session.put k (s.acceptFrame aes frame)}, reply := reply} := by
  let after : SenderLoop := {l with session := l.session.put k (s.acceptFrame aes frame)}
  have served : after.session.Served := by
    intro j x there
    rw [Session.putGet] at there
    split at there
    · cases Option.some.inj there
      have stepped := StreamState.stepServed aes (ready.served k s here) (.enqueueFrame frame)
      simp only [StreamState.step,accepted] at stepped
      exact stepped
    · exact ready.served j x there
  obtain ⟨_,_,queues⟩ := ready.served k s here
  have count : after.inFlight type = if type = k then l.inFlight type+1 else l.inFlight type := by
    simp only [after,SenderLoop.inFlight,Session.putInFlight,StreamState.acceptInFlight queues.window room aes frame]
    split
    · rename_i own
      rw [own,Session.inFlight,here]
      rfl
    · rfl
  have watchdog : after.watchdog type = l.watchdog type := by cases type <;> rfl
  have notes : Handled.notes {loop := after, reply := reply} type = [] := Handled.quietNotes rfl rfl
  refine ⟨served,fun _ => ?_,fun _ => ?_,fun _ _ => ?_⟩
  · rw [notes,watchdog,count]
    by_cases own : type = k
    · rw [if_pos own,if_neg (Nat.succ_ne_zero _)]
      rfl
    · rw [if_neg own]
      split
      · rename_i empty
        exact ready.idle type empty
      · rfl
  · rw [watchdog]
    exact (Bool.or_false _).symm
  · rw [count]
    split <;> omega

theorem delayedRests {delay : Nat} {session : Session}
    (set : l.session.setTargetPlayoutDelay delay = (.ok (),session)) : l.session.Rests session := by
  simp only [Session.setTargetPlayoutDelay] at set
  split at set
  · cases set
  · cases set
    intro k
    have delayed (stream : Option StreamState) :
        Option.Rel StreamState.Rests stream (stream.map fun x => x.setTargetPlayoutDelay delay) := by
      cases stream with
      | none => exact .none
      | some x => exact .some (x.setTargetPlayoutDelayRests delay)
    cases k with
    | audio => exact delayed l.session.audio
    | video => exact delayed l.session.video

theorem feedbackAcknowledges (h : Handled) {events : List SenderEvent} (emitted : h.emissions = events.map .nonterminal) :
    h.acknowledges type = events.any (SenderEvent.acks type) := by
  rw [Handled.acknowledges,emitted,List.any_map]
  rfl

theorem advanceSession (l : SenderLoop) (progress : AcknowledgementProgress) (times : FeedbackTimes) (k : StreamType) :
    (l.advance progress times k).session = l.session := by
  unfold SenderLoop.advance
  split
  · exact SenderLoop.setWatchdogSession l k _
  · rfl

theorem advanceWatchdog (l : SenderLoop) (progress : AcknowledgementProgress) (times : FeedbackTimes) (k : StreamType) :
    (l.advance progress times k).watchdog type = if type = k ∧ progress.get k then
      .acknowledgementAdvanced (l.inFlight k ≠ 0) (times.advancedAt k) else l.watchdog type := by
  unfold SenderLoop.advance
  by_cases advanced : progress.get k
  · simp only [advanced,if_true,and_true,SenderLoop.getSetWatchdog]
  · simp only [advanced,Bool.false_eq_true,if_false,and_false]

theorem advancedWatchdog (l : SenderLoop) (progress : AcknowledgementProgress) (times : FeedbackTimes) :
    ((l.advance progress times .audio).advance progress times .video).watchdog type =
      if progress.get type then .acknowledgementAdvanced (l.inFlight type ≠ 0) (times.advancedAt type)
      else l.watchdog type := by
  have same (k : StreamType) : (l.advance progress times .audio).inFlight k = l.inFlight k := by
    rw [SenderLoop.inFlight,advanceSession]
    rfl
  rw [advanceWatchdog,advanceWatchdog,same]
  cases type <;> simp

theorem advanceWatches (ready : l.Ready) (times : FeedbackTimes) {p : Session.Processing} (fed : Session.Fed l.session p) :
    Watches type l ⟨({l with session := p.session}.advance p.progress times .audio).advance p.progress times .video,none,
      p.events.map .nonterminal,times.advancedAt,[],none⟩ := by
  let fresh : SenderLoop := {l with session := p.session}
  let after := (fresh.advance p.progress times .audio).advance p.progress times .video
  have session : after.session = p.session := by rw [advanceSession,advanceSession]
  have inFlight : after.inFlight type = p.session.inFlight type := by rw [SenderLoop.inFlight,session]
  have watchdog : after.watchdog type = if p.progress.get type then
      .acknowledgementAdvanced (p.session.inFlight type ≠ 0) (times.advancedAt type) else l.watchdog type := by
    have same : fresh.watchdog type = l.watchdog type := by cases type <;> rfl
    rw [← same]
    exact advancedWatchdog fresh p.progress times
  let h : Handled := {loop := after, emissions := p.events.map .nonterminal, advancedAt := times.advancedAt}
  have acknowledged : h.acknowledges type = p.progress.get type :=
    (feedbackAcknowledges h rfl).trans (fed.progress type).symm
  have count := fed.count type
  have notes : h.notes type = if p.progress.get type then [.acknowledged (times.advancedAt type)] else [] := by
    rw [Handled.notes,acknowledged]
    exact List.append_nil _
  have unmoved (quiet : p.progress.get type = false) : p.session.inFlight type = l.inFlight type := by
    rw [fed.progress,Session.anyCount,decide_eq_false_iff_not,not_not] at quiet
    rw [quiet] at count
    exact count
  refine ⟨fun k x there => fed.served k x (session ▸ there),fun _ => ?_,fun _ => ?_,fun _ silent => ?_⟩
  · show (after.watchdog type).waitingSince = if after.inFlight type = 0 then none else
      (h.notes type).foldl Note.apply (l.watchdog type).waitingSince
    rw [notes,inFlight,watchdog]
    cases progress : p.progress.get type with
    | true =>
      simp only [if_true,AcknowledgementWatchdog.acknowledgementAdvanced]
      by_cases empty : p.session.inFlight type = 0 <;> simp [empty,Note.apply]
    | false =>
      simp only [Bool.false_eq_true,if_false,List.foldl_nil]
      split
      · rename_i empty
        exact ready.idle type ((unmoved progress).symm.trans empty)
      · rfl
  · show (after.watchdog type).hasAcknowledged = ((l.watchdog type).hasAcknowledged || h.acknowledges type)
    rw [acknowledged,watchdog]
    cases p.progress.get type <;> simp [AcknowledgementWatchdog.acknowledgementAdvanced]
  · have kept := unmoved (acknowledged.symm.trans silent)
    show l.inFlight type ≤ after.inFlight type
    rw [inFlight,kept]

theorem onFeedbackWatches (ready : l.Ready) (compound : CompoundRtcpPacket) (times : FeedbackTimes) (flush : Flush)
    (now : Nat) : Watches type l (l.onFeedback compound times flush now) :=
  thenFlushWatches (advanceWatches ready times (Session.processFeedbackFed ready.served compound times.receivedAt)) rfl rfl
    flush (fun after => SenderLoop.publishSession after _ _) fun after => SenderLoop.publishWatchdog after _ _ type

theorem reportedRests {after : SenderLoop} (reported : Reported l after) :
    l.session.Rests after.session ∧ ∀ type, after.watchdog type = l.watchdog type := by
  induction reported with
  | none => exact ⟨.refl _,fun _ => rfl⟩
  | @sent l _ _ stream here compactNtp sentAt _ ih =>
    refine ⟨(Session.putRests here (stream.recordSenderReportRests compactNtp sentAt)).trans ih.1,fun type => ?_⟩
    rw [ih.2]
    cases type <;> rfl

theorem timedOutKeeps {w : AcknowledgementWatchdog} {count : Nat} (idle : count = 0 → w.waitingSince = none) (now : Nat) :
    (w.timedOut (count ≠ 0) now).1 = w := by
  unfold AcknowledgementWatchdog.timedOut
  split
  · rename_i empty
    cases w with
    | mk waitingSince hasAcknowledged =>
      have none : waitingSince = none := idle (by simpa using empty)
      rw [none]
  · rfl

theorem pollKeeps (ready : l.Ready) (audioAt videoAt : Nat) : l.poll audioAt videoAt = l := by
  have audio : (l.audioWatchdog.timedOut (l.inFlight .audio ≠ 0) audioAt).1 = l.audioWatchdog :=
    timedOutKeeps (ready.idle .audio) audioAt
  have video : (l.videoWatchdog.timedOut (l.inFlight .video ≠ 0) videoAt).1 = l.videoWatchdog :=
    timedOutKeeps (ready.idle .video) videoAt
  rw [SenderLoop.poll,audio,video]

theorem handleWatches (ready : l.Ready) (aes : BlockCipher) (remote : SocketAddr) (input : SenderInput) :
    Watches type l (l.handle aes remote input) := by
  have handles := l.handles aes remote input
  generalize l.handle aes remote input = h at handles ⊢
  cases handles with
  | idle => exact sameWatches ready rfl rfl rfl
  | ended => exact sameWatches ready rfl rfl rfl
  | rejected here rejected =>
    have rests := rejectRests aes rejected
    rw [rejected] at rests
    refine restWatches ready ?_ ?_ rfl rfl
    · rw [SenderLoop.publishSession]
      exact Session.putRests here rests
    · rw [SenderLoop.publishWatchdog]
      cases type <;> rfl
  | accepted here room accepted flush =>
    exact thenFlushWatches (acceptWatches ready aes here room accepted _) rfl rfl flush
      (fun after => SenderLoop.publishSession after _ _) fun after => SenderLoop.publishWatchdog after _ _ type
  | delayed set =>
    refine restWatches ready ?_ ?_ rfl rfl
    · rw [SenderLoop.publishSession]
      exact delayedRests set
    · rw [SenderLoop.publishWatchdog]
      cases type <;> rfl
  | burst flush =>
    exact thenFlushWatches (sameWatches (h := {loop := l}) ready rfl rfl rfl) rfl rfl flush (fun _ => rfl) fun _ => rfl
  | feedback _ _ compound times flush now => exact onFeedbackWatches ready compound times flush now
  | malformed => exact sameWatches ready rfl rfl rfl
  | receiveFailed => exact failWatches (h := {loop := l}) ready.served _
  | reported sent =>
    obtain ⟨rests,watchdog⟩ := reportedRests sent
    exact restWatches ready rests (watchdog type) rfl rfl
  | reportFailed sent _ _ error => exact failWatches ((reportedRests sent).1.served ready.served) error
  | snapshot => exact restWatches ready (.refl _) (by cases type <;> rfl) rfl rfl
  | polled audioAt videoAt => exact sameWatches ready (pollKeeps ready audioAt videoAt) rfl rfl
  | timedOut audioAt videoAt => exact sameWatches ready (pollKeeps ready audioAt videoAt) rfl rfl

end Handlers

end Chromiacast
