import Chromiacast.StreamLedger

/-! Where a stream's packets are. Every queued packet is a stored packet of a frame
that is still pending; packets sent for the first time keep the order in which
they were packetized, and the packetizer numbers them without a gap. -/
namespace Chromiacast
open Basis

def RtpPacket.sequenceNumber (packet : RtpPacket) : UInt16 := UInt16.ofNat (readBE ((packet.data.drop 2).take 2))

namespace RtpPacketizer

theorem packetSequence (p : RtpPacketizer) (f : FrameFields) (count : Nat) (payload : Bytes) (i : Nat) :
    (p.packet f count payload i).sequenceNumber = p.sequenceNumber := by
  have header : ((p.packet f count payload i).data.drop 2).take 2 = be 2 p.sequenceNumber.toNat := by
    simp only [packet,List.append_assoc,List.cons_append,List.drop_succ_cons,List.nil_append,List.drop_zero]
    exact List.take_left' (beLength ..)
  rw [RtpPacket.sequenceNumber,header,readBeExact p.sequenceNumber.toNat_lt]
  simp

theorem packetizeSequence (p : RtpPacketizer) (f : FrameFields) (payload : Bytes) {i : Nat} {packet : RtpPacket}
    (stored : (p.packetize f payload).1[i]? = some packet) :
    packet.sequenceNumber = p.sequenceNumber+UInt16.ofNat i := by
  rw [packetizeSpec,List.getElem?_map] at stored
  obtain ⟨j,inside,rfl⟩ := Option.map_eq_some_iff.mp stored
  obtain ⟨_,rfl⟩ := List.getElem?_eq_some_iff.mp inside
  rw [packetSequence]
  simp [after]

theorem packetizeAdvances (p : RtpPacketizer) (f : FrameFields) (payload : Bytes) :
    (p.packetize f payload).2.sequenceNumber =
      p.sequenceNumber+UInt16.ofNat (p.packetize f payload).1.length := by
  rw [packetizeCount,packetizeSpec]
  rfl

end RtpPacketizer

namespace StreamState

def Output.packetizes : Output → List RtpPacket
  | .accepted _ _ packets => packets
  | _ => []

def Output.original : Output → List RtpPacket
  | .outbound (some ⟨packet,false⟩) => [packet]
  | _ => []

def packetizedPackets (trace : List Output) : List RtpPacket := trace.flatMap Output.packetizes

def originals (trace : List Output) : List RtpPacket := trace.flatMap Output.original

def Belongs (s : StreamState) (queued : QueuedPacket) : Prop :=
  ∃ frame, s.find queued.frameId = some frame ∧ queued.packet ∈ frame.packets

structure Queues (sequenceNumber : UInt16) (s : StreamState) (trace : List Output) : Prop where
  window : Window s
  send : ∀ queued ∈ s.sendQueue, s.Belongs queued
  retransmit : ∀ queued ∈ s.retransmitQueue, s.Belongs queued
  order : (originals trace ++ s.sendQueue.map QueuedPacket.packet).Sublist (packetizedPackets trace)
  numbered : ∀ (i : Nat) (packet : RtpPacket), (packetizedPackets trace)[i]? = some packet →
    packet.sequenceNumber = sequenceNumber+UInt16.ofNat i
  next : s.packetizer.sequenceNumber = sequenceNumber+UInt16.ofNat (packetizedPackets trace).length

theorem newQueues (parameters : StreamParameters) (sequenceNumber : UInt16) :
    Queues sequenceNumber (new parameters sequenceNumber) [] where
  window := newWindow parameters sequenceNumber
  send := by simp [new]
  retransmit := by simp [new]
  order := by simp [new,originals,packetizedPackets]
  numbered := by simp [packetizedPackets]
  next := by simp [new,RtpPacketizer.new,packetizedPackets]

theorem packetizedSnoc (trace : List Output) (output : Output) :
    packetizedPackets (trace ++ [output]) = packetizedPackets trace ++ output.packetizes := by
  simp [packetizedPackets]

theorem originalsSnoc (trace : List Output) (output : Output) :
    originals (trace ++ [output]) = originals trace ++ output.original := by
  simp [originals]

theorem Queues.advance {sequenceNumber : UInt16} {s t : StreamState} {trace : List Output} {output : Output}
    (q : Queues sequenceNumber s trace) (window : Window t) (nothing : output.packetizes = [])
    (packetizer : t.packetizer = s.packetizer) (send : ∀ queued ∈ t.sendQueue, t.Belongs queued)
    (retransmit : ∀ queued ∈ t.retransmitQueue, t.Belongs queued)
    (order : (output.original ++ t.sendQueue.map QueuedPacket.packet).Sublist
      (s.sendQueue.map QueuedPacket.packet)) : Queues sequenceNumber t (trace ++ [output]) := by
  have same : packetizedPackets (trace ++ [output]) = packetizedPackets trace := by
    simp [packetizedSnoc,nothing]
  refine ⟨window,send,retransmit,?_,?_,?_⟩
  · rw [same,originalsSnoc,List.append_assoc]
    exact (order.append_left _).trans q.order
  · rw [same]; exact q.numbered
  · rw [same,packetizer]; exact q.next

theorem Queues.accept {sequenceNumber : UInt16} {s : StreamState} {trace : List Output}
    (q : Queues sequenceNumber s trace) (aes : BlockCipher) (frame : EncodedFrame)
    (room : s.inFlightIdSpan < maxUnackedFrames) : Queues sequenceNumber (s.acceptFrame aes frame)
      (trace ++ [.accepted s.nextFrameId frame (s.packetized aes frame).1]) := by
  have w := q.window
  have old (queued : QueuedPacket) (before : s.Belongs queued) : (s.acceptFrame aes frame).Belongs queued := by
    obtain ⟨pending,found,member⟩ := before
    have below := (w.inside queued.frameId (by simp [found])).2
    refine ⟨pending,?_,member⟩
    rw [acceptFind w room,if_neg (by omega)]
    exact found
  have all : packetizedPackets (trace ++ [.accepted s.nextFrameId frame (s.packetized aes frame).1]) =
      packetizedPackets trace ++ (s.packetized aes frame).1 := packetizedSnoc ..
  refine ⟨acceptWindow w room aes frame,?_,fun queued member => old queued (q.retransmit queued member),?_,?_,?_⟩
  · intro queued member
    rcases List.mem_append.mp member with before | now
    · exact old queued (q.send queued before)
    · obtain ⟨packet,stored,rfl⟩ := List.mem_map.mp now
      exact ⟨_,by rw [acceptFind w room,if_pos rfl],stored⟩
  · have queue : (s.acceptFrame aes frame).sendQueue.map QueuedPacket.packet =
        s.sendQueue.map QueuedPacket.packet ++ (s.packetized aes frame).1 := by
      simp [acceptFrame,Function.comp_def]
    rw [all,originalsSnoc,queue]
    simp only [Output.original,List.append_nil]
    rw [← List.append_assoc]
    exact q.order.append_right _
  · intro i packet stored
    rw [all] at stored
    by_cases before : i < (packetizedPackets trace).length
    · rw [List.getElem?_append_left before] at stored
      exact q.numbered i packet stored
    · rw [List.getElem?_append_right (by omega)] at stored
      rw [RtpPacketizer.packetizeSequence _ _ _ stored,q.next,UInt16.add_assoc,← UInt16.ofNat_add]
      congr 2
      omega
  · rw [all,List.length_append,UInt16.ofNat_add,← UInt16.add_assoc,← q.next]
    exact RtpPacketizer.packetizeAdvances ..

theorem requestedStored {pending : PendingFrame} {packetId : UInt16} {packet : RtpPacket}
    (member : packet ∈ requested pending packetId) : packet ∈ pending.packets := by
  unfold requested at member
  split at member
  · exact member
  · exact List.mem_of_getElem? (Option.mem_toList.mp member)

theorem nackPacketsBelong {s : StreamState} {checkpoint : Int} {nack : PacketNack} {queued : QueuedPacket}
    (member : queued ∈ s.nackPackets checkpoint nack) : s.Belongs queued := by
  unfold nackPackets at member
  cases found : s.find (FrameId.expand (FrameId.truncate nack.frameId) checkpoint) with
  | none => simp [found] at member
  | some pending =>
    simp only [found,Option.elim_some,List.mem_map] at member
    obtain ⟨packet,stored,rfl⟩ := member
    exact ⟨pending,found,requestedStored stored⟩

theorem Processed.keeps {s t : StreamState} {feedback : CastFeedback} {ids : List Int}
    (p : Processed s feedback t ids) {queued : QueuedPacket} (before : s.Belongs queued)
    (kept : queued.frameId ∉ ids) : t.Belongs queued := by
  obtain ⟨frame,found,member⟩ := before
  refine ⟨frame,?_,member⟩
  have stays : ¬ retires (s.decodeCheckpoint feedback) feedback.ackBitvector queued.frameId := fun gone =>
    kept ((p.reported _).mpr ⟨by simp [found],gone⟩)
  rw [p.found,if_neg stays]
  exact found

theorem Queues.process {sequenceNumber : UInt16} {s : StreamState} {trace : List Output}
    (q : Queues sequenceNumber s trace) (feedback : CastFeedback) (retransmissions : List Retransmission) :
    Queues sequenceNumber (s.processCastFeedback feedback).1
      (trace ++ [.processed (s.processCastFeedback feedback).2.1 retransmissions]) := by
  have p := processed q.window feedback
  refine q.advance p.window rfl (congrArg Outgoing.packetizer p.outgoing) ?_ ?_ ?_
  · intro queued member
    rw [p.sendQueue,List.mem_filter,decide_eq_true_eq] at member
    exact p.keeps (q.send queued member.1) member.2
  · intro queued member
    rw [p.retransmitQueue,List.mem_append,List.mem_filter,decide_eq_true_eq] at member
    rcases member with ⟨before,kept⟩ | now
    · exact p.keeps (q.retransmit queued before) kept
    · obtain ⟨nack,_,added⟩ := List.mem_flatMap.mp now
      exact nackPacketsBelong added
  · rw [p.sendQueue]
    exact List.filter_sublist.map _

theorem effectQueues {aes : BlockCipher} {sequenceNumber : UInt16} {s t : StreamState} {trace : List Output}
    {output : Output} (q : Queues sequenceNumber s trace) (effect : Effect aes s t output) :
    Queues sequenceNumber t (trace ++ [output]) := by
  have window := effectWindow q.window effect
  cases effect with
  | accepted frame nonempty room => exact q.accept aes frame room
  | processed feedback => exact q.process feedback _
  | retransmitted queued rest head =>
    refine q.advance window rfl rfl q.send ?_ (List.Sublist.refl _)
    intro other member
    exact q.retransmit other (by rw [head]; exact List.mem_cons_of_mem _ member)
  | sent queued rest head =>
    refine q.advance window rfl rfl ?_ q.retransmit (by rw [head]; exact List.Sublist.refl _)
    intro other member
    exact q.send other (by rw [head]; exact List.mem_cons_of_mem _ member)
  | quiet t output same silent =>
    have belongs (queued : QueuedPacket) (before : s.Belongs queued) : t.Belongs queued := by
      simpa only [Belongs,same.find] using before
    have shape : output.packetizes = [] ∧ output.original = [] := by
      cases output with
      | accepted id frame packets => simp [Output.silent] at silent
      | processed ids retransmissions => simp [Output.silent] at silent
      | rejected error => exact ⟨rfl,rfl⟩
      | outbound packet => cases packet with
        | none => exact ⟨rfl,rfl⟩
        | some packet => simp [Output.silent] at silent
      | done => exact ⟨rfl,rfl⟩
    refine q.advance window shape.1 same.packetizer ?_ ?_ ?_
    · intro queued member
      exact belongs queued (q.send queued (same.sendQueue ▸ member))
    · intro queued member
      exact belongs queued (q.retransmit queued (same.retransmitQueue ▸ member))
    · rw [shape.2,same.sendQueue]
      exact List.Sublist.refl _

theorem runQueues (aes : BlockCipher) (parameters : StreamParameters) (sequenceNumber : UInt16)
    (operations : List Operation) :
    Queues sequenceNumber (run aes parameters sequenceNumber operations).1
      (run aes parameters sequenceNumber operations).2 :=
  Machine.runTrace (step aes) (newQueues parameters sequenceNumber)
    (fun s _ operation q => effectQueues q (stepEffect aes s operation)) operations

theorem nextPacketQueued {s : StreamState} {outbound : OutboundPacket} (sent : s.nextPacket.1 = some outbound) :
    ∃ queued, (queued ∈ s.sendQueue ∨ queued ∈ s.retransmitQueue) ∧ outbound.packet = queued.packet := by
  unfold nextPacket at sent
  split at sent
  · rename_i queued rest head
    cases Option.some.inj sent
    exact ⟨queued,.inr (by simp [head]),rfl⟩
  · split at sent
    · rename_i queued rest head
      cases Option.some.inj sent
      exact ⟨queued,.inl (by simp [head]),rfl⟩
    · contradiction

theorem queueDiscipline (aes : BlockCipher) (parameters : StreamParameters) (sequenceNumber : UInt16)
    (operations : List Operation) :
    let reached := run aes parameters sequenceNumber operations
    (∀ queued, queued ∈ reached.1.sendQueue ∨ queued ∈ reached.1.retransmitQueue →
      ∃ frame, reached.1.find queued.frameId = some frame ∧ queued.packet ∈ frame.packets) ∧
    (∀ outbound, reached.1.nextPacket.1 = some outbound →
      ∃ id frame, id ∉ acknowledgedIds reached.2 ∧ reached.1.find id = some frame ∧
        outbound.packet ∈ frame.packets) ∧
    acceptedIds reached.2 = idsThrough 0 (reached.1.nextFrameId-1) ∧
    (originals reached.2).Sublist (packetizedPackets reached.2) ∧
    ∀ (i : Nat) (packet : RtpPacket), (packetizedPackets reached.2)[i]? = some packet →
      packet.sequenceNumber = sequenceNumber+UInt16.ofNat i := by
  intro reached
  have q : Queues sequenceNumber reached.1 reached.2 := runQueues aes parameters sequenceNumber operations
  have l : Ledger reached.1 reached.2 := runLedger aes parameters sequenceNumber operations
  have belongs (queued : QueuedPacket)
      (member : queued ∈ reached.1.sendQueue ∨ queued ∈ reached.1.retransmitQueue) : reached.1.Belongs queued :=
    member.elim (q.send queued) (q.retransmit queued)
  refine ⟨belongs,?_,l.accepted,(List.sublist_append_left _ _).trans q.order,q.numbered⟩
  intro outbound sent
  obtain ⟨queued,member,same⟩ := nextPacketQueued sent
  obtain ⟨frame,found,stored⟩ := belongs queued member
  have live : (reached.1.find queued.frameId).isSome := by simp [found]
  exact ⟨queued.frameId,frame,(l.parted _ (l.pendingAccepted live)).mp live,found,same ▸ stored⟩

end StreamState
end Chromiacast
