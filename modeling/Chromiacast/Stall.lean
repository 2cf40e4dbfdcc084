import Chromiacast.Recovery

/-! The limits of recovery. When everything in flight is lost, a frame can still be completed
exactly if the receiver has seen it or a later one; with a full window of unseen frames the
stream never moves again. -/
namespace Chromiacast
open Basis
namespace World

structure Unreached (b : Int) (w v : World) : Prop where
  onward : Onward w v
  sent : ∀ d ∈ v.sent, d.frameId < b
  queued : ∀ d ∈ v.sender.queue, d.frameId < b
  told : ∀ m ∈ v.emitted, (∀ id, m.Retires id → id < b) ∧ ∀ l ∈ m.losses, l.frameId < b
  find : ∀ id, b ≤ id → v.sender.find id = w.sender.find id

section
variable {b : Int} {w v : World}

theorem Unreached.complete (u : Unreached b w v) {id : Int} (complete : v.Complete id) : id < b := by
  obtain ⟨⟨frame,member,rfl⟩,all⟩ := complete
  obtain ⟨packet,inside⟩ := List.exists_mem_of_ne_nil _ (u.onward.traced.real frame member)
  exact u.sent _ (u.onward.safe.received _ (all frame member rfl packet inside))

theorem Unreached.checkpoint (u : Unreached b w v) (low : 0 ≤ b) : v.checkpoint < b := by
  by_cases some' : 0 ≤ v.checkpoint
  · exact u.complete (u.onward.safe.below _ some' (le_refl _))
  · omega

theorem Unreached.emit (u : Unreached b w v) (low : 0 ≤ b) {m : Report} (truthful : v.Truthful m) :
    (∀ id, m.Retires id → id < b) ∧ ∀ l ∈ m.losses, l.frameId < b := by
  obtain ⟨same,acked,named⟩ := truthful
  constructor
  · rintro id (below | ⟨i,set,rfl⟩)
    · rw [same] at below
      exact below.trans_lt (u.checkpoint low)
    · obtain ⟨ack,present,bit⟩ : ∃ ack, m.ack = some ack ∧ StreamState.ackBit ack.data i := by
        simpa [Report.acks,Option.any_eq_true] using set
      exact u.complete (acked ack present i (StreamState.ackBitInside bit) bit)
  · intro l lost
    obtain ⟨_,⟨d,seen,newest⟩,_⟩ := named l lost
    exact newest.trans_lt (u.sent d (u.onward.safe.received d seen))

theorem Unreached.operate (u : Unreached b w v) (aes : BlockCipher) (type : StreamType)
    {operation : StreamState.Operation}
    (old : (Action.operate operation).enqueues → maxUnackedFrames ≤ v.sender.inFlightIdSpan) :
    Unreached b w (v.step aes type (.operate operation)) := by
  have onward := u.onward.step aes type _ old
  simp only [step] at onward ⊢
  split
  · exact u
  · rename_i own
    rw [if_neg own] at onward
    have idle := StreamState.idle aes v.sender own old
    refine ⟨onward,?_,fun d member => u.queued d (idle.queue d member),u.told,
      fun id high => (idle.find id).trans (u.find id high)⟩
    intro d member
    rcases List.mem_append.mp member with before | now
    · exact u.sent d before
    · split at now
      · exact u.queued d (List.mem_of_mem_head? (Option.mem_toList.mp now))
      · simp at now

theorem Unreached.deliver (u : Unreached b w v) (aes : BlockCipher) (type : StreamType) (m : Report)
    (receivedAt : Nat) : Unreached b w (v.step aes type (.deliver m receivedAt)) := by
  have onward := u.onward.step aes type (.deliver m receivedAt) (by simp [Action.enqueues])
  simp only [step] at onward ⊢
  split
  · rename_i possible
    rw [if_pos possible] at onward
    obtain ⟨emitted,recent⟩ := possible
    obtain ⟨_,_,stays,queue⟩ := u.onward.safe.processed emitted recent
    have p := StreamState.processed u.onward.safe.kept.window (m.feedback v.sender.sources)
    rw [StreamState.receiveEncoded] at onward ⊢
    refine ⟨onward,u.sent,?_,u.told,?_⟩
    · intro d member
      rw [StreamState.queue,queue,p.sendQueue,List.mem_append,List.mem_append] at member
      rcases member with (before | now) | before
      · exact u.queued d (List.mem_append_left _ (List.mem_filter.mp before).1)
      · obtain ⟨l,lost,asked⟩ := List.mem_flatMap.mp now
        rw [(StreamState.lossPacketsFrame asked).1]
        exact (u.told m emitted).2 l lost
      · exact u.queued d (List.mem_append_right _ (List.mem_filter.mp before).1)
    · intro id high
      exact (stays id fun gone => absurd ((u.told m emitted).1 id gone) (not_lt.mpr high)).trans (u.find id high)
  · exact u

theorem Unreached.step (u : Unreached b w v) (low : 0 ≤ b) (aes : BlockCipher) (type : StreamType) (action : Action)
    (old : action.enqueues → maxUnackedFrames ≤ v.sender.inFlightIdSpan) :
    Unreached b w (v.step aes type action) := by
  have onward := u.onward.step aes type action old
  cases action with
  | operate operation => exact u.operate aes type old
  | deliver report receivedAt => exact u.deliver aes type report receivedAt
  | receive d =>
    simp only [World.step] at onward ⊢
    split
    · rename_i sent
      rw [if_pos sent] at onward
      exact ⟨onward,u.sent,u.queued,u.told,u.find⟩
    · exact u
  | advance =>
    simp only [World.step] at onward ⊢
    split
    · rename_i complete
      rw [if_pos complete] at onward
      exact ⟨onward,u.sent,u.queued,u.told,u.find⟩
    · exact u
  | emit report =>
    simp only [World.step] at onward ⊢
    split
    · rename_i truthful
      rw [if_pos truthful] at onward
      refine ⟨onward,u.sent,u.queued,?_,u.find⟩
      intro m member
      rcases List.mem_append.mp member with before | now
      · exact u.told m before
      · cases List.mem_singleton.mp now
        exact u.emit low truthful
    · exact u

end

/- Whatever is in flight, in either direction, is lost. -/
def severed (w : World) : World := {w with sent := w.received, emitted := []}

theorem Safe.severed {w : World} (safe : Safe w) : Safe w.severed :=
  ⟨safe.kept,fun d seen => safe.sent d (safe.received d seen),fun _ seen => seen,safe.low,safe.below,safe.behind,
    by simp [World.severed]⟩

theorem Traced.severed {w : World} (traced : Traced w) : Traced w.severed :=
  traced.same rfl (fun _ => rfl) rfl fun _ seen => seen

theorem afterTraced (aes : BlockCipher) (type : StreamType) (parameters : StreamParameters) (sequenceNumber : UInt16)
    (actions : List Action) : Traced (after aes type parameters sequenceNumber actions) := by
  induction actions using List.reverseRecOn with
  | nil => exact startTraced parameters sequenceNumber
  | append_singleton rest action ih =>
    rw [after,List.foldl_append]
    exact ih.step (afterSafe aes type parameters sequenceNumber rest) aes type action

theorem Safe.recovers {w : World} (safe : Safe w) (traced : Traced w) (aes : BlockCipher) (type : StreamType)
    {d : QueuedPacket} (under : d ∈ w.sent ++ w.sender.queue) {id : Int} (newer : id ≤ d.frameId) :
    ∃ v, Resumes aes type w v ∧ ∀ j ≤ id, (0 ≤ j → v.Complete j) ∧ v.sender.find j = none := by
  obtain ⟨t,drained,sent⟩ := drains aes type w
  have all : ∀ other ∈ [d], other ∈ t.sent := by
    intro other member
    cases List.mem_singleton.mp member
    rcases List.mem_append.mp under with before | queued
    · exact (drained.onward safe traced).sent d before
    · exact sent d queued
  obtain ⟨u,arrived,received⟩ := arrive aes type [d] all
  have first := drained.trans arrived
  have onward := Resumes.onward first safe traced
  obtain ⟨x,climbed,reached⟩ := onward.safe.reaches onward.traced aes type (received d (.inr (List.mem_singleton_self d)))
  have second := first.trans climbed
  have onward' := Resumes.onward second safe traced
  obtain ⟨v,released,same,gone⟩ := onward'.safe.releases aes type
  have third := second.trans released
  have last := Resumes.onward third safe traced
  refine ⟨v,third,fun j below => ⟨fun low => last.safe.below j low ?_,gone j ?_⟩⟩ <;> omega

theorem recoverable (aes : BlockCipher) (type : StreamType) (parameters : StreamParameters) (sequenceNumber : UInt16)
    (actions : List Action) (id : Int) (accepted : 0 ≤ id) :
    let w := (after aes type parameters sequenceNumber actions).severed
    ((∃ d ∈ w.received ++ w.sender.queue, id ≤ d.frameId) →
      ∃ v, Resumes aes type w v ∧ ∀ j ≤ id, (0 ≤ j → v.Complete j) ∧ v.sender.find j = none) ∧
    ((∀ d ∈ w.received ++ w.sender.queue, d.frameId < id) →
      ∀ v, Resumes aes type w v → ¬ v.Complete id ∧ v.sender.find id = w.sender.find id) := by
  intro w
  have safe : Safe w := (afterSafe aes type parameters sequenceNumber actions).severed
  have traced : Traced w := (afterTraced aes type parameters sequenceNumber actions).severed
  constructor
  · rintro ⟨d,under,newer⟩
    exact safe.recovers traced aes type under newer
  · intro unseen v resumes
    have here : Unreached id w w := ⟨.refl safe traced,fun d member => unseen d (List.mem_append_left _ member),
      fun d member => unseen d (List.mem_append_right _ member),by simp [w,severed],fun _ _ => rfl⟩
    have u : Unreached id w v :=
      resumes.keeps (fun _ action old u => u.step accepted aes type action (by simp [old])) here
    exact ⟨fun complete => lt_irrefl _ (u.complete complete),u.find id (le_refl id)⟩

theorem exampleRecovery :
    (∃ v, Resumes (fun _ block => block) .audio
      (after (fun _ block => block) .audio StreamState.exampleParameters 0 exampleActions).severed v ∧ v.Complete 1) ∧
    ¬ ∃ v, Resumes (fun _ block => block) .audio
      (after (fun _ block => block) .audio StreamState.exampleParameters 0 exampleSends).severed v ∧ v.Complete 0 := by
  constructor
  · obtain ⟨v,resumes,all⟩ := (recoverable (fun _ block => block) .audio StreamState.exampleParameters 0
      exampleActions 2 (by decide)).1 (by decide +kernel)
    exact ⟨v,resumes,(all 1 (by decide)).1 (by decide)⟩
  · rintro ⟨v,resumes,complete⟩
    exact ((recoverable (fun _ block => block) .audio StreamState.exampleParameters 0 exampleSends 0 (by decide)).2
      (by decide +kernel) v resumes).1 complete

structure Full (w : World) : Prop where
  span : w.sender.inFlightIdSpan = maxUnackedFrames
  agreed : w.sender.checkpoint = w.checkpoint
  drained : w.sender.queue = []
  unseen : ∀ d ∈ w.received, d.frameId ≤ w.checkpoint

structure Stalled (w v : World) : Prop where
  reached : Unreached (w.checkpoint+1) w v
  sender : v.sender.checkpoint = w.sender.checkpoint
  queue : v.sender.queue = []
  sent : v.sent = w.sent

section
variable {w v : World}

theorem Stalled.checkpoint (stalled : Stalled w v) (safe : Safe w) : v.checkpoint = w.checkpoint := by
  have forward := stalled.reached.onward.checkpoint
  have low := safe.low
  have bound := stalled.reached.checkpoint (by omega)
  omega

theorem Stalled.find (stalled : Stalled w v) (safe : Safe w) (full : Full w) (id : Int) :
    v.sender.find id = w.sender.find id := by
  by_cases high : w.checkpoint+1 ≤ id
  · exact stalled.reached.find id high
  · have agreed := full.agreed
    have none' (s : StreamState) (window : s.Window) (same : s.checkpoint = w.sender.checkpoint) : s.find id = none := by
      by_contra some'
      have inside := (window.inside id (Option.isSome_iff_ne_none.mpr some')).1
      omega
    rw [none' v.sender stalled.reached.onward.safe.kept.window stalled.sender,none' w.sender safe.kept.window rfl]

theorem Stalled.full (stalled : Stalled w v) (full : Full w) : maxUnackedFrames ≤ v.sender.inFlightIdSpan := by
  rw [← full.span,StreamState.inFlightIdSpan,StreamState.inFlightIdSpan,stalled.sender,stalled.reached.onward.next]

theorem Stalled.operate (stalled : Stalled w v) (full : Full w) (safe : Safe w) (aes : BlockCipher)
    (type : StreamType) (operation : StreamState.Operation) :
    Stalled w (v.step aes type (.operate operation)) := by
  have low := safe.low
  have reached := stalled.reached.step (by omega) aes type (.operate operation) (fun _ => stalled.full full)
  simp only [step] at reached ⊢
  split
  · exact stalled
  · rename_i own
    rw [if_neg own] at reached
    have idle := StreamState.idle aes v.sender own (fun _ => stalled.full full)
    have head : v.sender.queueHead = none := by
      rw [StreamState.queueHead,← StreamState.queue,stalled.queue]
      rfl
    refine ⟨reached,(StreamState.ownCheckpoint aes v.sender own).trans stalled.sender,?_,?_⟩
    · refine List.eq_nil_iff_forall_not_mem.mpr fun d member => ?_
      have before := idle.queue d member
      rw [stalled.queue] at before
      exact List.not_mem_nil before
    · simp [head,stalled.sent]

theorem Stalled.deliver (stalled : Stalled w v) (full : Full w) (safe : Safe w) (aes : BlockCipher)
    (type : StreamType) (m : Report) (receivedAt : Nat) : Stalled w (v.step aes type (.deliver m receivedAt)) := by
  have low := safe.low
  have reached := stalled.reached.step (by omega) aes type (.deliver m receivedAt) (fun _ => stalled.full full)
  simp only [step] at reached ⊢
  split
  · rename_i possible
    rw [if_pos possible] at reached
    obtain ⟨emitted,recent⟩ := possible
    have safe' := stalled.reached.onward.safe
    have p := StreamState.processed safe'.kept.window (m.feedback v.sender.sources)
    have decoded : v.sender.decodeCheckpoint (m.feedback v.sender.sources) = m.checkpoint :=
      safe'.decoded emitted recent
    obtain ⟨_,_,_,queue⟩ := safe'.processed emitted recent
    have same := stalled.checkpoint safe
    have known := (safe'.holds m emitted).reached
    have agreed := full.agreed
    have sender := stalled.sender
    rw [StreamState.receiveEncoded] at reached ⊢
    have stays : (v.sender.processCastFeedback (m.feedback v.sender.sources)).1.checkpoint = w.sender.checkpoint := by
      rw [p.checkpoint,decoded,max_eq_left (by omega),sender]
    obtain ⟨noRepeats,noSends⟩ := List.append_eq_nil_iff.mp stalled.queue
    refine ⟨reached,stays,List.append_eq_nil_iff.mpr ⟨?_,by rw [p.sendQueue,noSends]; rfl⟩,stalled.sent⟩
    rw [queue,noRepeats,List.filter_nil,List.nil_append,List.flatMap_eq_nil_iff]
    refine fun l lost => List.eq_nil_iff_forall_not_mem.mpr fun d asked => ?_
    -- a pending frame lies above the checkpoint, a lost one does not
    obtain ⟨_,live⟩ := StreamState.lossPacketsFrame asked
    have above := (p.window.inside l.frameId live).1
    have below := (stalled.reached.told m emitted).2 l lost
    omega
  · exact stalled

theorem Stalled.step (stalled : Stalled w v) (full : Full w) (safe : Safe w) (aes : BlockCipher)
    (type : StreamType) (action : Action) : Stalled w (v.step aes type action) := by
  have low := safe.low
  have reached := stalled.reached.step (by omega) aes type action (fun _ => stalled.full full)
  cases action with
  | operate operation => exact stalled.operate full safe aes type operation
  | deliver report receivedAt => exact stalled.deliver full safe aes type report receivedAt
  | receive d =>
    simp only [World.step] at reached ⊢
    split
    · rename_i sent
      rw [if_pos sent] at reached
      exact ⟨reached,stalled.sender,stalled.queue,stalled.sent⟩
    · exact stalled
  | advance =>
    simp only [World.step] at reached ⊢
    split
    · rename_i complete
      rw [if_pos complete] at reached
      exact ⟨reached,stalled.sender,stalled.queue,stalled.sent⟩
    · exact stalled
  | emit report =>
    simp only [World.step] at reached ⊢
    split
    · rename_i truthful
      rw [if_pos truthful] at reached
      exact ⟨reached,stalled.sender,stalled.queue,stalled.sent⟩
    · exact stalled

end

theorem stallsForever (aes : BlockCipher) (type : StreamType) (parameters : StreamParameters)
    (sequenceNumber : UInt16) (actions continuation : List Action)
    (full : Full (after aes type parameters sequenceNumber actions)) :
    let w := (after aes type parameters sequenceNumber actions).severed
    let v := continuation.foldl (step aes type) w
    v.sent = w.sent ∧ v.frames = w.frames ∧ v.checkpoint = w.checkpoint ∧ v.sender.queue = [] ∧
    v.sender.nextFrameId = w.sender.nextFrameId ∧ ∀ id, v.sender.find id = w.sender.find id := by
  intro w v
  have safe : Safe w := (afterSafe aes type parameters sequenceNumber actions).severed
  have traced : Traced w := (afterTraced aes type parameters sequenceNumber actions).severed
  have full' : Full w := ⟨full.span,full.agreed,full.drained,full.unseen⟩
  have here : Stalled w w := by
    refine ⟨⟨.refl safe traced,?_,?_,by simp [w,severed],fun _ _ => rfl⟩,rfl,full'.drained,rfl⟩
    · exact fun d seen => Int.lt_add_one_of_le (full'.unseen d seen)
    · simp [full'.drained]
  have stalled : Stalled w v := (Reaches.all (fun _ _ => trivial) w : Reaches (step aes type) (fun _ => True) w v).keeps
    (fun u action _ stalled => stalled.step full' safe aes type action) here
  exact ⟨stalled.sent,stalled.reached.onward.frames,stalled.checkpoint safe,stalled.queue,
    stalled.reached.onward.next,stalled.find safe full'⟩

def exampleWindow : List Action :=
  (List.range maxUnackedFrames).map (fun n => .operate (.enqueueFrame ⟨.keyFrame,[1],n,0,none⟩)) ++
    List.replicate maxUnackedFrames (.operate .nextPacket)

theorem exampleFull : Full (after (fun _ block => block) .audio StreamState.exampleParameters 0 exampleWindow) :=
  ⟨by decide +kernel,by decide +kernel,by decide +kernel,by decide +kernel⟩

theorem exampleStall :
    ([Action.operate (.enqueueFrame ⟨.delta,[1],500,0,none⟩),.operate .nextPacket].foldl (step (fun _ block => block) .audio)
      (after (fun _ block => block) .audio StreamState.exampleParameters 0 exampleWindow).severed).sent = [] :=
  (stallsForever (fun _ block => block) .audio StreamState.exampleParameters 0 exampleWindow _ exampleFull).1

end World
end Chromiacast
