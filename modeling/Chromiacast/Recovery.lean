import Chromiacast.Basis.Reach
import Chromiacast.ProtocolSafety

/-! What becomes of frames whose packets are lost for good. The sender repeats a packet only
when a report asks for it, and a report names no frame newer than those the receiver has seen:
up to there everything can be repaired, beyond it nothing can without a new frame. -/
namespace Chromiacast
open Basis

theorem StreamState.ownOutput (aes : BlockCipher) (s : StreamState) {operation : Operation}
    (own : ¬ operation.isCastFeedback) (ids : List Int) (repeats : List Retransmission) :
    (step aes s operation).2 ≠ .processed ids repeats := by
  cases operation with
  | castFeedback feedback => simp [Operation.isCastFeedback] at own
  | enqueueFrame frame =>
    simp only [step]
    split <;> simp
  | _ => simp [step]

theorem StreamState.lossPacketsFrame {s : StreamState} {l : Loss} {d : QueuedPacket} (asked : d ∈ s.lossPackets l) :
    d.frameId = l.frameId ∧ (s.find l.frameId).isSome := by
  unfold lossPackets at asked
  cases found : s.find l.frameId with
  | none => simp [found] at asked
  | some pending =>
    rw [found,Option.elim_some] at asked
    obtain ⟨_,_,inside⟩ := List.mem_flatMap.mp asked
    obtain ⟨_,_,rfl⟩ := List.mem_map.mp inside
    exact ⟨rfl,rfl⟩

theorem StreamState.packetizedNonempty (aes : BlockCipher) (s : StreamState) (frame : EncodedFrame) :
    (s.packetized aes frame).1 ≠ [] := by
  rw [← List.length_pos_iff,packetized,RtpPacketizer.packetizeCount]
  exact RtpPacketizer.numPacketsPositive ..

def StreamState.queue (s : StreamState) : List QueuedPacket := s.retransmitQueue ++ s.sendQueue

def Action.enqueues : Action → Bool
  | .operate (.enqueueFrame _) => true
  | _ => false

theorem StreamState.nextPacketLeaves (s : StreamState) : s.nextPacket.2.queue = s.queue.tail := by
  unfold nextPacket queue
  split
  · rename_i queued rest head
    simp [head]
  · rename_i drained
    split
    · rename_i queued rest head
      simp [drained,head]
    · rename_i empty
      simp [drained,empty]

structure StreamState.Idle (s t : StreamState) (output : Output) : Prop where
  frames : output.frames = []
  next : t.nextFrameId = s.nextFrameId
  find : ∀ id, t.find id = s.find id
  queue : ∀ d ∈ t.queue, d ∈ s.queue

theorem StreamState.idle (aes : BlockCipher) (s : StreamState) {operation : Operation}
    (own : ¬ operation.isCastFeedback)
    (old : (Action.operate operation).enqueues → maxUnackedFrames ≤ s.inFlightIdSpan) :
    Idle s (step aes s operation).1 (step aes s operation).2 := by
  have other := ownOutput aes s own
  have effect := stepEffect aes s operation
  have accepts (id : Int) (frame : EncodedFrame) (packets : List RtpPacket)
      (accepted : (step aes s operation).2 = .accepted id frame packets) : (Action.operate operation).enqueues := by
    cases operation with
    | enqueueFrame frame => rfl
    | _ => simp [step] at accepted
  generalize step aes s operation = result at effect other accepts
  obtain ⟨t,output⟩ := result
  simp only at effect other accepts ⊢
  cases effect with
  | accepted frame nonempty room => exact absurd room (not_lt.mpr (old (accepts _ _ _ rfl)))
  | processed feedback => exact absurd rfl (other _ _)
  | retransmitted queued rest head =>
    refine ⟨rfl,rfl,fun _ => rfl,fun d member => ?_⟩
    rw [queue,head]
    exact List.mem_cons_of_mem _ member
  | sent queued rest head =>
    refine ⟨rfl,rfl,fun _ => rfl,fun d member => ?_⟩
    rw [queue,head]
    exact List.mem_append.mpr ((List.mem_append.mp member).imp_right (List.mem_cons_of_mem _))
  | quiet t output same silent =>
    refine ⟨silentFrames silent,same.nextFrameId,same.find,fun d member => ?_⟩
    rw [queue,same.retransmitQueue,same.sendQueue] at member
    exact member

namespace World

structure Traced (w : World) : Prop where
  every : ∀ id, 0 ≤ id → id < w.sender.nextFrameId → ∃ packets, (id,packets) ∈ w.frames
  real : ∀ frame ∈ w.frames, frame.2 ≠ []
  held : ∀ id packets, (id,packets) ∈ w.frames → w.Complete id ∨
    ∃ pending, w.sender.find id = some pending ∧ pending.packets = packets

theorem startTraced (parameters : StreamParameters) (sequenceNumber : UInt16) :
    Traced (start parameters sequenceNumber) where
  every := by
    intro id low high
    simp only [start,StreamState.new,FrameId.first] at high
    omega
  real := by simp [start]
  held := by simp [start]

theorem Traced.same {w v : World} (traced : Traced w) (next : v.sender.nextFrameId = w.sender.nextFrameId)
    (find : ∀ id, v.sender.find id = w.sender.find id) (frames : v.frames = w.frames)
    (received : ∀ d ∈ w.received, d ∈ v.received) : Traced v where
  every := by
    rw [next,frames]
    exact traced.every
  real := by
    rw [frames]
    exact traced.real
  held := by
    intro id packets member
    rw [frames] at member
    rcases traced.held id packets member with complete | ⟨pending,found,same⟩
    · exact .inl (complete.grow (by rw [frames,List.append_nil]) (by simp) received)
    · exact .inr ⟨pending,by rw [find,found],same⟩

theorem Traced.complete {w : World} (traced : Traced w) (safe : Safe w) {id : Int} {pending : PendingFrame}
    (found : w.sender.find id = some pending) (all : ∀ packet ∈ pending.packets, ⟨id,packet⟩ ∈ w.received) :
    w.Complete id := by
  refine ⟨⟨_,safe.kept.stored id pending found,rfl⟩,?_⟩
  rintro ⟨_,packets⟩ member rfl packet inside
  rcases traced.held _ packets member with complete | ⟨other,found',rfl⟩
  · exact complete.2 _ member rfl packet inside
  · cases Option.some.inj (found.symm.trans found')
    exact all packet inside

theorem Traced.accept {w : World} (traced : Traced w) (safe : Safe w) {aes : BlockCipher} {frame : EncodedFrame}
    (room : w.sender.inFlightIdSpan < maxUnackedFrames) (sent : List QueuedPacket) :
    Traced {w with
      sender := w.sender.acceptFrame aes frame
      frames := w.frames ++ [(w.sender.nextFrameId,(w.sender.packetized aes frame).1)]
      sent := sent} where
  every := by
    intro id low high
    have below : id < w.sender.nextFrameId+1 := high
    by_cases last : id = w.sender.nextFrameId
    · exact ⟨_,List.mem_append_right _ (by rw [last]; exact List.mem_singleton_self _)⟩
    · obtain ⟨packets,member⟩ := traced.every id low (by omega)
      exact ⟨packets,List.mem_append_left _ member⟩
  real := by
    intro other member
    rcases List.mem_append.mp member with before | now
    · exact traced.real other before
    · cases List.mem_singleton.mp now
      exact StreamState.packetizedNonempty aes w.sender frame
  held := by
    intro id packets member
    rcases List.mem_append.mp member with before | now
    · have below := safe.kept.known _ before
      have other : id ≠ w.sender.nextFrameId := ne_of_lt below
      rcases traced.held id packets before with complete | ⟨pending,found,same⟩
      · exact .inl (complete.grow rfl (by simpa using other.symm) fun _ seen => seen)
      · exact .inr ⟨pending,by rw [StreamState.acceptFind safe.kept.window room,if_neg other,found],same⟩
    · cases List.mem_singleton.mp now
      exact .inr ⟨_,by rw [StreamState.acceptFind safe.kept.window room,if_pos rfl],rfl⟩

theorem Traced.operate {w : World} (traced : Traced w) (safe : Safe w) (aes : BlockCipher) (type : StreamType)
    (operation : StreamState.Operation) : Traced (w.step aes type (.operate operation)) := by
  simp only [step]
  split
  · exact traced
  · rename_i own
    have other := StreamState.ownOutput aes w.sender own
    have effect := StreamState.stepEffect aes w.sender operation
    generalize StreamState.step aes w.sender operation = result at effect other
    obtain ⟨t,output⟩ := result
    simp only at effect other ⊢
    cases effect with
    | accepted frame nonempty room => exact traced.accept safe room _
    | processed feedback => exact absurd rfl (other _ _)
    | retransmitted queued rest head => exact traced.same rfl (fun _ => rfl) (List.append_nil _) fun _ seen => seen
    | sent queued rest head => exact traced.same rfl (fun _ => rfl) (List.append_nil _) fun _ seen => seen
    | quiet t output same silent =>
      rw [StreamState.silentFrames silent]
      exact traced.same same.nextFrameId same.find (List.append_nil _) fun _ seen => seen

theorem Traced.deliver {w : World} (traced : Traced w) (safe : Safe w) (aes : BlockCipher) (type : StreamType)
    (m : Report) (receivedAt : Nat) : Traced (w.step aes type (.deliver m receivedAt)) := by
  simp only [step]
  split
  · rename_i possible
    obtain ⟨emitted,recent⟩ := possible
    have p := StreamState.processed safe.kept.window (m.feedback w.sender.sources)
    obtain ⟨_,_,stays,_⟩ := safe.processed emitted recent
    rw [StreamState.receiveEncoded]
    have next := congrArg StreamState.Outgoing.nextFrameId p.outgoing
    refine ⟨fun id low high => traced.every id low (lt_of_lt_of_eq high next),traced.real,?_⟩
    intro id packets member
    rcases traced.held id packets member with complete | ⟨pending,found,same⟩
    · exact .inl complete
    · by_cases retired : m.Retires id
      · exact .inl (traced.complete safe found (safe.complete emitted found retired))
      · exact .inr ⟨pending,(stays id retired).trans found,same⟩
  · exact traced

theorem Traced.step {w : World} (traced : Traced w) (safe : Safe w) (aes : BlockCipher) (type : StreamType)
    (action : Action) : Traced (w.step aes type action) := by
  cases action with
  | operate operation => exact traced.operate safe aes type operation
  | deliver report receivedAt => exact traced.deliver safe aes type report receivedAt
  | receive datagram =>
    simp only [World.step]
    split
    · exact traced.same rfl (fun _ => rfl) rfl fun _ seen => List.mem_append_left _ seen
    · exact traced
  | advance =>
    simp only [World.step]
    split
    · exact traced.same rfl (fun _ => rfl) rfl fun _ seen => seen
    · exact traced
  | emit report =>
    simp only [World.step]
    split
    · exact traced.same rfl (fun _ => rfl) rfl fun _ seen => seen
    · exact traced

theorem Safe.step {w : World} (safe : Safe w) (aes : BlockCipher) (type : StreamType) (action : Action) :
    Safe (w.step aes type action) := by
  cases action with
  | operate operation => exact safe.operate aes type operation
  | receive datagram => exact safe.receive aes type datagram
  | advance => exact safe.advance aes type
  | emit report => exact safe.emit aes type report
  | deliver report receivedAt => exact safe.deliver aes type report receivedAt

structure Onward (w v : World) : Prop where
  safe : Safe v
  traced : Traced v
  frames : v.frames = w.frames
  next : v.sender.nextFrameId = w.sender.nextFrameId
  sent : ∀ d ∈ w.sent, d ∈ v.sent
  received : ∀ d ∈ w.received, d ∈ v.received
  checkpoint : w.checkpoint ≤ v.checkpoint

theorem Onward.refl {w : World} (safe : Safe w) (traced : Traced w) : Onward w w :=
  ⟨safe,traced,rfl,rfl,fun _ member => member,fun _ member => member,le_refl _⟩

theorem Onward.step {w v : World} (onward : Onward w v) (aes : BlockCipher) (type : StreamType) (action : Action)
    (old : action.enqueues → maxUnackedFrames ≤ v.sender.inFlightIdSpan) : Onward w (v.step aes type action) := by
  have safe := onward.safe.step aes type action
  have traced := onward.traced.step onward.safe aes type action
  cases action with
  | operate operation =>
    simp only [World.step] at safe traced ⊢
    split
    · exact onward
    · rename_i own
      have idle := StreamState.idle aes v.sender own old
      rw [if_neg own] at safe traced
      exact ⟨safe,traced,by rw [idle.frames,List.append_nil,onward.frames],idle.next.trans onward.next,
        fun d member => List.mem_append_left _ (onward.sent d member),onward.received,onward.checkpoint⟩
  | receive d =>
    simp only [World.step] at safe traced ⊢
    split
    · rename_i sent
      rw [if_pos sent] at safe traced
      exact ⟨safe,traced,onward.frames,onward.next,onward.sent,
        fun d member => List.mem_append_left _ (onward.received d member),onward.checkpoint⟩
    · exact onward
  | advance =>
    simp only [World.step] at safe traced ⊢
    split
    · rename_i complete
      rw [if_pos complete] at safe traced
      have forward := onward.checkpoint
      exact ⟨safe,traced,onward.frames,onward.next,onward.sent,onward.received,by simp only; omega⟩
    · exact onward
  | emit report =>
    simp only [World.step] at safe traced ⊢
    split
    · rename_i truthful
      rw [if_pos truthful] at safe traced
      exact ⟨safe,traced,onward.frames,onward.next,onward.sent,onward.received,onward.checkpoint⟩
    · exact onward
  | deliver m receivedAt =>
    simp only [World.step] at safe traced ⊢
    split
    · rename_i possible
      rw [if_pos possible] at safe traced
      have next : (v.sender.receiveDatagram type (m.encode v.sender.sources) receivedAt).1.nextFrameId =
          v.sender.nextFrameId := by
        rw [StreamState.receiveEncoded]
        have p := StreamState.processed onward.safe.kept.window (m.feedback v.sender.sources)
        exact congrArg StreamState.Outgoing.nextFrameId p.outgoing
      exact ⟨safe,traced,onward.frames,next.trans onward.next,onward.sent,onward.received,onward.checkpoint⟩
    · exact onward

def Resumes (aes : BlockCipher) (type : StreamType) : World → World → Prop :=
  Reaches (step aes type) (fun action => action.enqueues = false)

section
variable {aes : BlockCipher} {type : StreamType} {w : World}

theorem Resumes.onward {v : World} (resumes : Resumes aes type w v) (safe : Safe w) (traced : Traced w) : Onward w v :=
  resumes.keeps (fun _ action old onward => onward.step aes type action (by simp [old])) (.refl safe traced)

theorem Resumes.act {action : Action} (old : action.enqueues = false) : Resumes aes type w (w.step aes type action) :=
  ⟨[action],by simpa using old,rfl⟩

theorem drains (aes : BlockCipher) (type : StreamType) (w : World) :
    ∃ v, Resumes aes type w v ∧ ∀ d ∈ w.sender.queue, d ∈ v.sent := by
  have lower (u : World) (left : ∀ d ∈ w.sender.queue, d ∈ u.sent ∨ d ∈ u.sender.queue)
      (more : u.sender.queue.length ≠ 0) : ∃ v, Resumes aes type u v ∧
        (∀ d ∈ w.sender.queue, d ∈ v.sent ∨ d ∈ v.sender.queue) ∧
        v.sender.queue.length < u.sender.queue.length := by
    refine ⟨u.step aes type (.operate .nextPacket),.act rfl,?_,?_⟩
    · intro d member
      simp only [step,StreamState.Operation.isCastFeedback,Bool.false_eq_true,if_false,if_true,StreamState.step,
        StreamState.nextPacketLeaves]
      rcases left d member with sent | queued
      · exact .inl (List.mem_append_left _ sent)
      · cases all : u.sender.queue with
        | nil => simp [all] at queued
        | cons first rest =>
          have head : u.sender.queueHead = some first := by
            rw [StreamState.queueHead,← StreamState.queue,all]
            rfl
          rw [all,List.mem_cons] at queued
          rcases queued with rfl | later
          · exact .inl (List.mem_append_right _ (by simp [head]))
          · exact .inr later
    · simp only [step,StreamState.Operation.isCastFeedback,Bool.false_eq_true,if_false,StreamState.step,
        StreamState.nextPacketLeaves,List.length_tail]
      omega
  obtain ⟨v,resumes,left,done⟩ := Reaches.lowers (fun u : World => u.sender.queue.length) lower
    (fun _ member => .inr member)
  refine ⟨v,resumes,fun d member => (left d member).resolve_right ?_⟩
  simp [List.length_eq_zero_iff.mp done]

theorem arrive (aes : BlockCipher) (type : StreamType) {w : World} (datagrams : List QueuedPacket)
    (sent : ∀ d ∈ datagrams, d ∈ w.sent) :
    ∃ v, Resumes aes type w v ∧ ∀ d, d ∈ w.received ∨ d ∈ datagrams → d ∈ v.received := by
  induction datagrams generalizing w with
  | nil => exact ⟨w,.refl w,fun _ member => member.resolve_right List.not_mem_nil⟩
  | cons d rest ih =>
    have now : w.step aes type (.receive d) = {w with received := w.received ++ [d]} := if_pos (sent d List.mem_cons_self)
    obtain ⟨v,resumes,all⟩ := ih (w := w.step aes type (.receive d)) (by
      rw [now]
      exact fun other member => sent other (List.mem_cons_of_mem _ member))
    refine ⟨v,(Resumes.act rfl).trans resumes,fun other member => all other ?_⟩
    rw [now,List.mem_append,List.mem_singleton]
    rw [List.mem_cons] at member
    tauto

theorem Safe.recent (safe : Safe w) : w.sender.nextFrameId-256 ≤ w.checkpoint := by
  have high := safe.kept.window.high
  have behind := safe.behind
  simp only [maxUnackedFrames] at high
  omega

theorem Safe.report (safe : Safe w) (aes : BlockCipher) (type : StreamType) {m : Report} (truthful : w.Truthful m) :
    Resumes aes type w {w with
      sender := (w.sender.processCastFeedback (m.feedback w.sender.sources)).1
      emitted := w.emitted ++ [m]} := by
  have emitted : w.step aes type (.emit m) = {w with emitted := w.emitted ++ [m]} := if_pos truthful
  have recent : w.sender.nextFrameId-256 ≤ m.checkpoint := safe.recent.trans_eq truthful.1.symm
  have delivered : (w.step aes type (.emit m)).step aes type (.deliver m 0) = {w with
      sender := (w.sender.processCastFeedback (m.feedback w.sender.sources)).1
      emitted := w.emitted ++ [m]} := by
    rw [emitted]
    refine (if_pos ⟨List.mem_append_right _ (List.mem_singleton_self m),recent⟩).trans ?_
    simp only [StreamState.receiveEncoded]
  rw [← delivered]
  exact (Resumes.act rfl).trans (Resumes.act rfl)

theorem Safe.told (safe : Safe w) (aes : BlockCipher) (type : StreamType) {m : Report} (truthful : w.Truthful m) :
    let t := (w.sender.processCastFeedback (m.feedback w.sender.sources)).1
    (∀ id, m.Retires id → t.find id = none) ∧ (∀ id, ¬ m.Retires id → t.find id = w.sender.find id) ∧
    ∀ l ∈ m.losses, ∀ d ∈ t.lossPackets l, d ∈ t.queue := by
  have emitted : w.step aes type (.emit m) = {w with emitted := w.emitted ++ [m]} := if_pos truthful
  have safe' := safe.emit aes type m
  rw [emitted] at safe'
  obtain ⟨_,gone,stays,queue⟩ := safe'.processed (List.mem_append_right _ (List.mem_singleton_self m))
    (safe.recent.trans_eq truthful.1.symm)
  refine ⟨gone,stays,fun l lost d asked => List.mem_append_left _ ?_⟩
  rw [queue]
  exact List.mem_append_right _ (List.mem_flatMap.mpr ⟨l,lost,asked⟩)

def asking (w : World) (id : Int) : Report where
  checkpoint := w.checkpoint
  playoutDelayMs := 0
  losses := [⟨id,allPacketsLost,0⟩]
  ack := none
  fewLosses := by simp
  lossesFit := by simp [Loss.field,LossField.Fits]
  fewOctets := by simp

def acking (w : World) : Report where
  checkpoint := w.checkpoint
  playoutDelayMs := 0
  losses := []
  ack := none
  fewLosses := by simp
  lossesFit := by simp
  fewOctets := by simp

theorem Safe.asked (safe : Safe w) (aes : BlockCipher) (type : StreamType) {id : Int} {pending : PendingFrame}
    (found : w.sender.find id = some pending) (above : w.checkpoint < id) (truthful : w.Truthful (w.asking id)) :
    ∃ v, Resumes aes type w v ∧ ∀ packet ∈ pending.packets, ⟨id,packet⟩ ∈ v.sender.queue := by
  obtain ⟨_,stays,asks⟩ := safe.told aes type truthful
  refine ⟨_,safe.report aes type truthful,fun packet inside => ?_⟩
  have kept : ¬ (w.asking id).Retires id := by
    rintro (below | ⟨_,set,_⟩)
    · exact absurd below (not_le.mpr above)
    · simp [Report.acks,asking] at set
  refine asks _ (List.mem_singleton_self _) _ ?_
  have pending' := (stays id kept).trans found
  simp [StreamState.lossPackets,pending',Loss.field,LossField.packets,StreamState.requested,inside]

theorem Safe.completes (safe : Safe w) (traced : Traced w) (aes : BlockCipher) (type : StreamType) {d : QueuedPacket}
    (seen : d ∈ w.received) (above : w.checkpoint < d.frameId) :
    ∃ v, Resumes aes type w v ∧ v.Complete (w.checkpoint+1) := by
  by_cases complete : w.Complete (w.checkpoint+1)
  · exact ⟨w,.refl w,complete⟩
  have low := safe.low
  have below := safe.seenBelow seen
  obtain ⟨packets,member⟩ := traced.every (w.checkpoint+1) (by omega) (by omega)
  obtain ⟨pending,found,rfl⟩ := (traced.held _ packets member).resolve_left complete
  have truthful : w.Truthful (w.asking (w.checkpoint+1)) := by
    refine ⟨rfl,by simp [asking],?_⟩
    intro l lost
    cases List.mem_singleton.mp lost
    exact ⟨by simp only [asking]; omega,⟨d,seen,by simp only; omega⟩,complete⟩
  obtain ⟨t,asked,queued⟩ := safe.asked aes type found (by omega) truthful
  obtain ⟨u,drained,sent⟩ := drains aes type t
  obtain ⟨v,arrived,all⟩ := arrive aes type
    (pending.packets.map (QueuedPacket.mk (w.checkpoint+1))) (w := u) (by
      intro other inside
      obtain ⟨packet,stored,rfl⟩ := List.mem_map.mp inside
      exact sent _ (queued packet stored))
  have resumes : Resumes aes type w v := (asked.trans drained).trans arrived
  have onward := resumes.onward safe traced
  refine ⟨v,resumes,?_⟩
  rcases onward.traced.held _ pending.packets (by rw [onward.frames]; exact member) with done | ⟨other,found',same⟩
  · exact done
  · refine onward.traced.complete onward.safe found' fun packet inside => all _ (.inr ?_)
    rw [same] at inside
    exact List.mem_map_of_mem inside

theorem Safe.advances (safe : Safe w) (traced : Traced w) (aes : BlockCipher) (type : StreamType) {d : QueuedPacket}
    (seen : d ∈ w.received) (above : w.checkpoint < d.frameId) :
    ∃ v, Resumes aes type w v ∧ w.checkpoint < v.checkpoint := by
  obtain ⟨u,resumes,complete⟩ := safe.completes traced aes type seen above
  have forward := (resumes.onward safe traced).checkpoint
  by_cases already : w.checkpoint < u.checkpoint
  · exact ⟨u,resumes,already⟩
  · have same : u.checkpoint = w.checkpoint := by omega
    rw [← same] at complete
    have moved : u.step aes type .advance = {u with checkpoint := u.checkpoint+1} := if_pos complete
    refine ⟨u.step aes type .advance,resumes.trans (Resumes.act rfl),?_⟩
    rw [moved]
    simp only
    omega

theorem Safe.reaches (safe : Safe w) (traced : Traced w) (aes : BlockCipher) (type : StreamType) {d : QueuedPacket}
    (seen : d ∈ w.received) : ∃ v, Resumes aes type w v ∧ d.frameId ≤ v.checkpoint := by
  have lower (u : World) (onward : Onward w u) (more : (d.frameId-u.checkpoint).toNat ≠ 0) :
      ∃ v, Resumes aes type u v ∧ Onward w v ∧ (d.frameId-v.checkpoint).toNat < (d.frameId-u.checkpoint).toNat := by
    obtain ⟨v,resumes,forward⟩ := onward.safe.advances onward.traced aes type (onward.received d seen) (by omega)
    refine ⟨v,resumes,?_,by omega⟩
    exact resumes.keeps (fun _ action old onward => onward.step aes type action (by simp [old])) onward
  obtain ⟨v,resumes,_,done⟩ := Reaches.lowers (fun u : World => (d.frameId-u.checkpoint).toNat) lower
    (.refl safe traced)
  exact ⟨v,resumes,by omega⟩

theorem Safe.releases (safe : Safe w) (aes : BlockCipher) (type : StreamType) :
    ∃ v, Resumes aes type w v ∧ v.checkpoint = w.checkpoint ∧ ∀ id ≤ w.checkpoint, v.sender.find id = none := by
  have truthful : w.Truthful w.acking := ⟨rfl,by simp [acking],by simp [acking]⟩
  exact ⟨_,safe.report aes type truthful,rfl,fun id below => (safe.told aes type truthful).1 id (.inl below)⟩

end

end World
end Chromiacast
