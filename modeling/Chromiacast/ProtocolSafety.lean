import Chromiacast.Protocol

/-! Safety of acknowledgements and retransmission requests. In every run of the two
parties a report means to the sender what it meant to the receiver, although both
sides exchange single bytes of the identifiers. -/
namespace Chromiacast
open Basis

theorem Report.nackDecoded {m : Report} {l : Loss} (above : m.checkpoint < l.frameId)
    (near : l.frameId ≤ m.checkpoint+maxUnackedFrames) {nack : PacketNack}
    (member : nack ∈ l.field.nacks (FrameId.truncate m.checkpoint)) :
    FrameId.expand (FrameId.truncate nack.frameId) m.checkpoint = l.frameId := by
  obtain ⟨packetId,_,rfl⟩ := List.mem_map.mp member
  simp only [maxUnackedFrames] at near
  rw [FrameId.truncateExpand]
  exact FrameId.expandTruncated (by omega) (by omega)

def StreamState.lossPackets (s : StreamState) (l : Loss) : List QueuedPacket :=
  (s.find l.frameId).elim [] fun pending =>
    l.field.packets.flatMap fun packetId => (requested pending packetId).map (QueuedPacket.mk l.frameId)

theorem StreamState.nackedPackets (s : StreamState) {m : Report} {l : Loss} (above : m.checkpoint < l.frameId)
    (near : l.frameId ≤ m.checkpoint+maxUnackedFrames) :
    (l.field.nacks (FrameId.truncate m.checkpoint)).flatMap (s.nackPackets m.checkpoint) = s.lossPackets l := by
  have each (nack : PacketNack) (member : nack ∈ l.field.nacks (FrameId.truncate m.checkpoint)) :
      s.nackPackets m.checkpoint nack = (s.find l.frameId).elim [] (fun pending =>
        (requested pending nack.packetId).map (QueuedPacket.mk l.frameId)) := by
    simp only [nackPackets,Report.nackDecoded above near member]
  rw [List.flatMap_congr each,LossField.nacks,List.flatMap_map,lossPackets]
  cases s.find l.frameId <;> simp

namespace World

theorem Safe.decoded {w : World} (safe : Safe w) {m : Report} (emitted : m ∈ w.emitted)
    (recent : w.sender.nextFrameId-256 ≤ m.checkpoint) :
    FrameId.expandLte (FrameId.truncate m.checkpoint) (w.sender.nextFrameId-1) = m.checkpoint := by
  have reached := (safe.holds m emitted).reached
  have below := safe.checkpointBelow
  exact FrameId.expandLteTruncated (by omega) (by omega)

theorem Safe.deliver {w : World} (safe : Safe w) (aes : BlockCipher) (type : StreamType) (m : Report)
    (receivedAt : Nat) : Safe (w.step aes type (.deliver m receivedAt)) := by
  simp only [step]
  split
  · rename_i possible
    obtain ⟨emitted,recent⟩ := possible
    have p := StreamState.processed safe.kept.window (m.feedback w.sender.sources)
    have decoded : w.sender.decodeCheckpoint (m.feedback w.sender.sources) = m.checkpoint :=
      safe.decoded emitted recent
    have reached := (safe.holds m emitted).reached
    have behind := safe.behind
    rw [StreamState.receiveEncoded]
    refine ⟨safe.kept.process _,safe.sent,safe.received,safe.low,safe.below,?_,
      fun m emitted => (safe.holds m emitted).grow (le_refl _) (fun _ complete => complete)⟩
    rw [p.checkpoint,decoded]
    exact max_le behind reached
  · exact safe

theorem afterSafe (aes : BlockCipher) (type : StreamType) (parameters : StreamParameters) (sequenceNumber : UInt16)
    (actions : List Action) : Safe (after aes type parameters sequenceNumber actions) := by
  induction actions using List.reverseRecOn with
  | nil => exact startSafe parameters sequenceNumber
  | append_singleton rest action ih =>
    rw [after,List.foldl_append]
    cases action with
    | operate operation => exact ih.operate aes type operation
    | receive datagram => exact ih.receive aes type datagram
    | advance => exact ih.advance aes type
    | emit report => exact ih.emit aes type report
    | deliver report receivedAt => exact ih.deliver aes type report receivedAt

theorem Safe.complete {w : World} (safe : Safe w) {m : Report} (emitted : m ∈ w.emitted) {id : Int}
    {pending : PendingFrame} (found : w.sender.find id = some pending) (retired : m.Retires id) :
    ∀ packet ∈ pending.packets, ⟨id,packet⟩ ∈ w.received := by
  have holds := safe.holds m emitted
  have complete : w.Complete id := by
    rcases retired with below | ⟨i,set,rfl⟩
    · have start := safe.kept.window.start
      have above := (safe.kept.window.inside id (by simp [found])).1
      exact safe.below id (by omega) (below.trans holds.reached)
    · exact holds.acked i set
  exact complete.2 _ (safe.kept.stored id pending found) rfl

theorem Safe.processed {w : World} (safe : Safe w) {m : Report} (emitted : m ∈ w.emitted)
    (recent : w.sender.nextFrameId-256 ≤ m.checkpoint) :
    let result := w.sender.processCastFeedback (m.feedback w.sender.sources)
    (∀ id, id ∈ result.2.1 ↔ (w.sender.find id).isSome ∧ m.Retires id) ∧
    (∀ id, m.Retires id → result.1.find id = none) ∧
    (∀ id, ¬ m.Retires id → result.1.find id = w.sender.find id) ∧
    result.1.retransmitQueue = w.sender.retransmitQueue.filter (fun queued => queued.frameId ∉ result.2.1) ++
      m.losses.flatMap result.1.lossPackets := by
  have p := StreamState.processed safe.kept.window (m.feedback w.sender.sources)
  have named := (safe.holds m emitted).named
  have decoded : w.sender.decodeCheckpoint (m.feedback w.sender.sources) = m.checkpoint :=
    safe.decoded emitted recent
  have retires (id : Int) : StreamState.retires (w.sender.decodeCheckpoint (m.feedback w.sender.sources))
      (m.feedback w.sender.sources).ackBitvector id ↔ m.Retires id := by
    rw [decoded]
    exact m.retiresIff id
  refine ⟨fun id => (p.reported id).trans (and_congr_right fun _ => retires id),?_,?_,?_⟩
  · intro id gone
    rw [p.found,if_pos ((retires id).mpr gone)]
  · intro id stays
    rw [p.found,if_neg fun gone => stays ((retires id).mp gone)]
  · rw [p.retransmitQueue,decoded]
    congr 1
    have nacks : (m.feedback w.sender.sources).nacks =
        m.fields.flatMap (LossField.nacks (FrameId.truncate m.checkpoint)) := rfl
    rw [nacks,Report.fields,List.flatMap_map,List.flatMap_assoc]
    exact List.flatMap_congr fun l member => StreamState.nackedPackets _ (named l member).1 (named l member).2

theorem feedbackAgreement (aes : BlockCipher) (type : StreamType) (parameters : StreamParameters)
    (sequenceNumber : UInt16) (actions : List Action) (m : Report) (receivedAt : Nat)
    (emitted : m ∈ (after aes type parameters sequenceNumber actions).emitted)
    (recent : (after aes type parameters sequenceNumber actions).sender.nextFrameId-256 ≤ m.checkpoint) :
    let w := after aes type parameters sequenceNumber actions
    let s := w.sender
    let result := s.receiveDatagram type (m.encode s.sources) receivedAt
    FrameId.expandLte (FrameId.truncate m.checkpoint) (s.nextFrameId-1) = m.checkpoint ∧
    (∀ id, (s.find id).isSome → (result.1.find id = none ↔ m.Retires id)) ∧
    (∀ id, ¬ m.Retires id → result.1.find id = s.find id) ∧
    (∀ id, .frameAcked type id ∈ result.2 ↔ (s.find id).isSome ∧ m.Retires id) ∧
    (∀ id pending, s.find id = some pending → m.Retires id → ∀ packet ∈ pending.packets,
      ⟨id,packet⟩ ∈ w.received) ∧
    (∀ l ∈ m.losses, ∀ nack ∈ l.field.nacks (FrameId.truncate m.checkpoint),
      FrameId.expand (FrameId.truncate nack.frameId) m.checkpoint = l.frameId) ∧
    ∃ kept : List QueuedPacket, kept.Sublist s.retransmitQueue ∧
      result.1.retransmitQueue = kept ++ m.losses.flatMap result.1.lossPackets := by
  intro w s result
  have safe : Safe w := afterSafe aes type parameters sequenceNumber actions
  have named := (safe.holds m emitted).named
  obtain ⟨reported,gone,stays,queue⟩ := safe.processed emitted recent
  have outcome : result = _ := s.receiveEncoded type m receivedAt
  rw [outcome]
  refine ⟨safe.decoded emitted recent,?_,stays,?_,fun id pending found retired => safe.complete emitted found retired,
    fun l member nack inside => Report.nackDecoded (named l member).1 (named l member).2 inside,_,
    List.filter_sublist,queue⟩
  · intro id live
    refine ⟨?_,gone id⟩
    intro absent
    by_contra kept
    rw [stays id kept] at absent
    exact Option.isSome_iff_ne_none.mp live absent
  · intro id
    refine Iff.trans ?_ (reported id)
    simp [s]

def exampleReport : Report where
  checkpoint := 0
  playoutDelayMs := 400
  losses := [⟨1,allPacketsLost,0⟩]
  ack := some ⟨0,[1,0]⟩
  fewLosses := by decide
  lossesFit := by decide
  fewOctets := by decide

def exampleSends : List Action :=
  [.operate (.enqueueFrame ⟨.keyFrame,[1],0,0,none⟩),.operate (.enqueueFrame ⟨.delta,[2],1,0,none⟩),
    .operate (.enqueueFrame ⟨.delta,[3],2,0,none⟩),.operate .nextPacket,.operate .nextPacket,.operate .nextPacket]

def exampleActions : List Action :=
  let sent := (after (fun _ block => block) .audio StreamState.exampleParameters 0 exampleSends).sent
  exampleSends ++ (sent.filter (fun d => d.frameId ≠ 1)).map Action.receive ++ [.advance,.emit exampleReport]

theorem exampleAgreement :
    let w := after (fun _ block => block) .audio StreamState.exampleParameters 0 exampleActions
    let t := (w.sender.receiveDatagram .audio (exampleReport.encode w.sender.sources) 0).1
    t.find 0 = none ∧ t.find 1 = w.sender.find 1 ∧ t.find 2 = none := by
  have emitted : exampleReport ∈
      (after (fun _ block => block) .audio StreamState.exampleParameters 0 exampleActions).emitted := by decide +kernel
  have recent : (after (fun _ block => block) .audio StreamState.exampleParameters 0
      exampleActions).sender.nextFrameId-256 ≤ exampleReport.checkpoint := by decide +kernel
  obtain ⟨_,retired,stays,_⟩ := feedbackAgreement (fun _ block => block) .audio StreamState.exampleParameters 0
    exampleActions exampleReport 0 emitted recent
  have missing : ¬ exampleReport.Retires 1 := by
    rintro (below | ⟨i,_,same⟩)
    · exact absurd below (by decide +kernel)
    · simp only [exampleReport] at same
      omega
  exact ⟨(retired 0 (by decide +kernel)).mpr (.inl (by decide +kernel)),stays 1 missing,
    (retired 2 (by decide +kernel)).mpr (.inr ⟨0,by decide +kernel,by decide +kernel⟩)⟩

end World
end Chromiacast
