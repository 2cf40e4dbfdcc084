import Chromiacast.HandlerCases

/-! The channel of events. Handlers emit ordinary events only while two slots stay free
after them, so the one event that announces the end of the loop always finds a slot,
and it is the last one. -/
namespace Chromiacast
open Basis

def SenderEvent.terminal : SenderEvent → Bool
  | .receiverTimedOut => true
  | .fatalError _ => true
  | _ => false

def Ordinary (events : List SenderEvent) : Prop := ∀ event ∈ events, event.terminal = false

def Announces (last : SenderEvent) (error : SenderError) : Prop :=
  last = .fatalError error ∨ last = .receiverTimedOut ∧ error = .receiverTimedOut

inductive Emits : List (Channel.Emission SenderEvent) → Option (Except SenderError Unit) → Prop
  | going (events : List SenderEvent) (ordinary : Ordinary events) : Emits (events.map .nonterminal) none
  | ended : Emits [] (some (.ok ()))
  | failed (events : List SenderEvent) (last : SenderEvent) (error : SenderError) (ordinary : Ordinary events)
      (announced : Announces last error) :
      Emits (events.map .nonterminal ++ [.terminal last]) (some (.error error))

theorem ordinaryNil : Ordinary [] := fun event member => by cases member

theorem ordinaryAppend {first second : List SenderEvent} (one : Ordinary first) (two : Ordinary second) :
    Ordinary (first ++ second) := fun event member => (List.mem_append.mp member).elim (one event) (two event)

theorem processFeedbackOrdinary (s : Session) (compound : CompoundRtcpPacket) (receivedAt : Nat) :
    Ordinary (s.processFeedback compound receivedAt).events := by
  intro event member
  have ours := s.processFeedbackEvents compound receivedAt event member
  cases event <;> first | rfl | cases ours

section Handlers
variable {h : Handled}

theorem failEmits {events : List SenderEvent} (emitted : h.emissions = events.map .nonterminal) (ordinary : Ordinary events)
    (error : SenderError) : Emits (h.fail error).emissions (h.fail error).exit := by
  have announced : Emits (events.map .nonterminal ++ [emitFatal error]) (some (.error error)) :=
    .failed events (.fatalError error) error ordinary (.inl rfl)
  rw [← emitted] at announced
  exact announced

theorem silentEmits (emitted : h.emissions = []) (exit : h.exit = none) : Emits h.emissions h.exit := by
  rw [emitted,exit]
  exact .going [] ordinaryNil

theorem thenFlushEmits {events : List SenderEvent} (emitted : h.emissions = events.map .nonterminal)
    (ordinary : Ordinary events) (exit : h.exit = none) (flush : Flush) (next : SenderLoop → SenderLoop) :
    Emits (SenderLoop.thenFlush h flush next).emissions (SenderLoop.thenFlush h flush next).exit := by
  unfold SenderLoop.thenFlush
  split
  · exact failEmits emitted ordinary _
  · rw [emitted,exit]
    exact .going events ordinary

theorem handleEmits (aes : BlockCipher) (remote : SocketAddr) (l : SenderLoop) (input : SenderInput) :
    Emits (l.handle aes remote input).emissions (l.handle aes remote input).exit := by
  have handles := l.handles aes remote input
  generalize l.handle aes remote input = h at handles ⊢
  have single {event : SenderEvent} (ordinary : event.terminal = false) : Ordinary [event] := by
    intro other member
    cases List.mem_singleton.mp member
    exact ordinary
  cases handles with
  | idle => exact silentEmits rfl rfl
  | ended => exact .ended
  | rejected => exact silentEmits rfl rfl
  | accepted _ _ _ flush => exact thenFlushEmits rfl ordinaryNil rfl flush _
  | delayed => exact silentEmits rfl rfl
  | burst flush => exact thenFlushEmits rfl ordinaryNil rfl flush id
  | feedback _ _ compound times flush =>
    exact thenFlushEmits rfl (processFeedbackOrdinary l.session compound times.receivedAt) rfl flush _
  | malformed _ error => exact .going [.malformedPacket error] (single rfl)
  | receiveFailed => exact failEmits rfl ordinaryNil _
  | reported => exact silentEmits rfl rfl
  | reportFailed _ _ _ error => exact failEmits rfl ordinaryNil error
  | snapshot => exact .going [.statisticsUpdated l.session.sessionStatistics] (single rfl)
  | polled => exact silentEmits rfl rfl
  | timedOut => exact .failed [] .receiverTimedOut .receiverTimedOut ordinaryNil (.inr ⟨rfl,rfl⟩)

end Handlers

def Delivered (events : Channel SenderEvent) : Option (Except SenderError Unit) → Prop
  | some (.error error) => events.Within 63 ∧
      ∃ earlier last, events.log = earlier ++ [last] ∧ Ordinary earlier ∧ Announces last error
  | _ => events.Within 62 ∧ Ordinary events.log

structure SenderRun.Kept (w : SenderRun) : Prop where
  slots : w.events.slots = eventSlots
  delivered : Delivered w.events w.result

section Runs
variable {events : Channel SenderEvent}

theorem readDelivered {result : Option (Except SenderError Unit)} (delivered : Delivered events result) (count : Nat) :
    Delivered (events.read count) result := by
  match result with
  | none => exact ⟨Channel.readWithin delivered.1 count,delivered.2⟩
  | some (.ok _) => exact ⟨Channel.readWithin delivered.1 count,delivered.2⟩
  | some (.error _) => exact ⟨Channel.readWithin delivered.1 count,delivered.2⟩

theorem emitDelivered (slots : events.slots = eventSlots) (delivered : Delivered events none)
    {emissions : List (Channel.Emission SenderEvent)} {exit : Option (Except SenderError Unit)}
    (emits : Emits emissions exit) (reads : Nat → Channel.Reads) :
    (Channel.emitAll reservedTerminalEventSlots reads 0 events emissions).slots = eventSlots ∧
      Delivered (Channel.emitAll reservedTerminalEventSlots reads 0 events emissions) exit := by
  have kept : reservedTerminalEventSlots ≤ events.slots := by rw [slots]; decide
  have within : events.Within (events.slots-reservedTerminalEventSlots) := by rw [slots]; exact delivered.1
  have plain (values : List SenderEvent) (ordinary : Ordinary values) :
      let d := Channel.emitAll reservedTerminalEventSlots reads 0 events (values.map .nonterminal)
      d.slots = eventSlots ∧ d.Within 62 ∧ Ordinary d.log := by
    obtain ⟨within',slots',queued,log,sub⟩ := Channel.emitAllNonterminal within kept reads 0 values
    rw [slots',slots] at within'
    refine ⟨slots'.trans slots,within',?_⟩
    rw [log]
    exact ordinaryAppend delivered.2 fun event member => ordinary event (sub.subset member)
  cases emits with
  | going values ordinary => exact plain values ordinary
  | ended => exact ⟨slots,delivered⟩
  | failed values last error ordinary announced =>
    rw [Channel.emitAllAppend]
    obtain ⟨slots',within',log⟩ := plain values ordinary
    rw [show 62 = eventSlots-reservedTerminalEventSlots from rfl,← slots'] at within'
    obtain ⟨within'',log',slots''⟩ := Channel.emitTerminal within' (by decide) (by rw [slots']; decide) (reads _) last
    rw [slots'] at within'' slots''
    exact ⟨slots'',within'',_,last,log',log,announced⟩

theorem stepKept {aes : BlockCipher} {remote : SocketAddr} {w after : SenderRun} {action : SenderAction}
    {out : Option Handled} (taken : w.StepTaken aes remote action after out) (kept : w.Kept) : after.Kept := by
  cases taken with
  | read count => exact ⟨kept.slots,readDelivered kept.delivered count⟩
  | ended input reads returned => exact kept
  | handled input reads running h handled =>
    have emits : Emits h.emissions h.exit := handled ▸ handleEmits aes remote w.loop input
    have delivered := kept.delivered
    rw [running] at delivered
    obtain ⟨slots,queued⟩ := emitDelivered kept.slots delivered emits reads
    exact ⟨slots,queued⟩

theorem runKept (aes : BlockCipher) (remote : SocketAddr) (session : Session) (now : Nat) (actions : List SenderAction) :
    (SenderRun.run aes remote session now actions).1.Kept := by
  have start : (SenderRun.new session now).Kept := ⟨rfl,Channel.newWithin _ _,ordinaryNil⟩
  exact Machine.runInvariant (SenderRun.step aes remote)
    (fun w action kept => stepKept (w.stepTaken aes remote action) kept) start actions

end Runs

theorem terminalEventsQueued (aes : BlockCipher) (remote : SocketAddr) (session : Session) (now : Nat)
    (actions : List SenderAction) :
    let final := (SenderRun.run aes remote session now actions).1
    (final.result = none → final.events.queue.length ≤ 62 ∧ final.events.peak ≤ 62) ∧
    (∀ error, final.result = some (.error error) → final.events.peak ≤ 63 ∧
      ∃ earlier last, final.events.log = earlier ++ [last] ∧ (∀ event ∈ earlier, event.terminal = false) ∧
        (last = .fatalError error ∨ last = .receiverTimedOut ∧ error = .receiverTimedOut)) ∧
    (final.result = some (.ok ()) → final.events.peak ≤ 62 ∧ ∀ event ∈ final.events.log, event.terminal = false) := by
  intro final
  have kept : final.Kept := runKept aes remote session now actions
  have delivered := kept.delivered
  refine ⟨fun running => ?_,fun error failed => ?_,fun returned => ?_⟩
  · rw [running] at delivered
    exact ⟨delivered.1.queued.trans delivered.1.limited,delivered.1.limited⟩
  · rw [failed] at delivered
    exact ⟨delivered.1.limited,delivered.2⟩
  · rw [returned] at delivered
    exact ⟨delivered.1.limited,delivered.2⟩

end Chromiacast
