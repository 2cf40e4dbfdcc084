import Chromiacast.StreamQueues

/-! The retransmission backlog by name. A queue entry stands for one packet of one
frame, named by the frame's identifier and the packet's position in it. -/
namespace Chromiacast.StreamState
open Basis

structure PacketName where
  frameId : Int
  position : Nat
  deriving DecidableEq, Repr

def requestedPositions (pending : PendingFrame) (packetId : UInt16) : List Nat :=
  if allPacketsLost = packetId then List.range pending.packets.length
  else if packetId.toNat < pending.packets.length then [packetId.toNat] else []

def nackNames (s : StreamState) (checkpoint : Int) (nack : PacketNack) : List PacketName :=
  let frameId := FrameId.expand (FrameId.truncate nack.frameId) checkpoint
  (s.find frameId).elim [] (fun pending => (requestedPositions pending nack.packetId).map (PacketName.mk frameId))

def requestedNames (s : StreamState) (feedback : CastFeedback) : List PacketName :=
  feedback.nacks.flatMap (s.nackNames (s.decodeCheckpoint feedback))

section Naming

def Names (s : StreamState) (name : PacketName) (queued : QueuedPacket) : Prop :=
  name.frameId = queued.frameId ∧
    ∃ pending, s.find name.frameId = some pending ∧ pending.packets[name.position]? = some queued.packet

instance (s : StreamState) (name : PacketName) (queued : QueuedPacket) : Decidable (s.Names name queued) :=
  decidable_of_iff (name.frameId = queued.frameId ∧
    (s.find name.frameId).bind (fun pending => pending.packets[name.position]?) = some queued.packet)
    (by simp [Names,Option.bind_eq_some_iff])

def Fresh (s : StreamState) (feedback : CastFeedback) : Prop :=
  (s.requestedNames feedback).Nodup ∧
    ∀ name ∈ s.requestedNames feedback, ∀ queued ∈ s.retransmitQueue, ¬ s.Names name queued

instance (s : StreamState) (feedback : CastFeedback) : Decidable (s.Fresh feedback) :=
  inferInstanceAs (Decidable (_ ∧ ∀ name ∈ s.requestedNames feedback, ∀ queued ∈ s.retransmitQueue, _))

theorem rangePositions {α : Type} (l : List α) :
    List.Forall₂ (fun i a => l[i]? = some a) (List.range l.length) l := by
  rw [List.forall₂_iff_get]
  refine ⟨by simp,?_⟩
  intro i left right
  simp

theorem requestedNamed (pending : PendingFrame) (packetId : UInt16) :
    List.Forall₂ (fun i packet => pending.packets[i]? = some packet) (requestedPositions pending packetId)
      (requested pending packetId) := by
  unfold requestedPositions requested
  by_cases whole : allPacketsLost = packetId
  · rw [if_pos whole,if_pos whole]
    exact rangePositions _
  · rw [if_neg whole,if_neg whole]
    by_cases inside : packetId.toNat < pending.packets.length
    · rw [if_pos inside,List.getElem?_eq_getElem inside]
      exact .cons (List.getElem?_eq_getElem inside) .nil
    · rw [if_neg inside,List.getElem?_eq_none (by omega)]
      exact .nil

theorem nackNamed (s : StreamState) (checkpoint : Int) (nack : PacketNack) :
    List.Forall₂ s.Names (s.nackNames checkpoint nack) (s.nackPackets checkpoint nack) := by
  simp only [nackNames,nackPackets]
  cases found : s.find (FrameId.expand (FrameId.truncate nack.frameId) checkpoint) with
  | none => exact .nil
  | some pending =>
    simp only [Option.elim_some,List.forall₂_map_left_iff,List.forall₂_map_right_iff]
    exact (requestedNamed pending nack.packetId).imp fun i packet stored => ⟨rfl,pending,found,stored⟩

theorem nacksNamed (s : StreamState) (checkpoint : Int) (nacks : List PacketNack) :
    List.Forall₂ s.Names (nacks.flatMap (s.nackNames checkpoint)) (nacks.flatMap (s.nackPackets checkpoint)) := by
  induction nacks with
  | nil => exact .nil
  | cons nack rest ih =>
    rw [List.flatMap_cons,List.flatMap_cons]
    exact List.rel_append (s.nackNamed checkpoint nack) ih

theorem Processed.keepsName {s t : StreamState} {feedback : CastFeedback} {ids : List Int}
    (p : Processed s feedback t ids) {name : PacketName} {queued : QueuedPacket} (named : s.Names name queued)
    (kept : name.frameId ∉ ids) : t.Names name queued := by
  obtain ⟨same,pending,found,stored⟩ := named
  refine ⟨same,pending,?_,stored⟩
  have stays : ¬ retires (s.decodeCheckpoint feedback) feedback.ackBitvector name.frameId := fun gone =>
    kept ((p.reported _).mpr ⟨by simp [found],gone⟩)
  rw [p.found,if_neg stays]
  exact found

theorem waitingNamed {s : StreamState} {names : List PacketName} {queue : List QueuedPacket}
    (named : List.Forall₂ s.Names names queue) {name : PacketName} (member : name ∈ names) :
    ∃ queued ∈ queue, s.Names name queued := by
  induction named with
  | nil => exact absurd member (List.not_mem_nil)
  | @cons other queued names queue first rest ih =>
    rcases List.mem_cons.mp member with rfl | inside
    · exact ⟨queued,List.mem_cons_self,first⟩
    · obtain ⟨found,waiting,stands⟩ := ih inside
      exact ⟨found,List.mem_cons_of_mem _ waiting,stands⟩

theorem filterNamed {s t : StreamState} {ids : List Int} {names : List PacketName} {queue : List QueuedPacket}
    (named : List.Forall₂ s.Names names queue)
    (keep : ∀ name queued, s.Names name queued → name.frameId ∉ ids → t.Names name queued) :
    List.Forall₂ t.Names (names.filter (fun name => name.frameId ∉ ids))
      (queue.filter (fun queued => queued.frameId ∉ ids)) := by
  induction named with
  | nil => exact .nil
  | @cons name queued names queue first rest ih =>
    by_cases gone : name.frameId ∈ ids
    · rw [List.filter_cons_of_neg (by simpa using gone),List.filter_cons_of_neg (by simpa [← first.1] using gone)]
      exact ih
    · rw [List.filter_cons_of_pos (by simpa using gone),List.filter_cons_of_pos (by simpa [← first.1] using gone)]
      exact .cons (keep name queued first gone) ih

/- A report retires frames before it handles its NACKs, so they find at most what they ask for. -/
theorem Processed.namesSublist {s t : StreamState} {feedback : CastFeedback} {ids : List Int}
    (p : Processed s feedback t ids) :
    (feedback.nacks.flatMap (t.nackNames (s.decodeCheckpoint feedback))).Sublist (s.requestedNames feedback) := by
  have one (nack : PacketNack) :
      (t.nackNames (s.decodeCheckpoint feedback) nack).Sublist (s.nackNames (s.decodeCheckpoint feedback) nack) := by
    simp only [nackNames,p.found]
    split
    · exact List.nil_sublist _
    · exact List.Sublist.refl _
  unfold requestedNames
  induction feedback.nacks with
  | nil => exact List.Sublist.refl _
  | cons nack rest ih => exact (one nack).append ih

end Naming

structure Backlog (s : StreamState) : Prop where
  window : Window s
  named : ∃ names : List PacketName, names.Nodup ∧ List.Forall₂ s.Names names s.retransmitQueue

theorem newBacklog (parameters : StreamParameters) (sequenceNumber : UInt16) :
    Backlog (new parameters sequenceNumber) :=
  ⟨newWindow parameters sequenceNumber,[],List.nodup_nil,.nil⟩

theorem Backlog.process {s : StreamState} (b : Backlog s) {feedback : CastFeedback} (fresh : s.Fresh feedback) :
    Backlog (s.processCastFeedback feedback).1 := by
  have p := processed b.window feedback
  obtain ⟨names,distinct,named⟩ := b.named
  refine ⟨p.window,names.filter (fun name => name.frameId ∉ (s.processCastFeedback feedback).2.1) ++
    feedback.nacks.flatMap ((s.processCastFeedback feedback).1.nackNames (s.decodeCheckpoint feedback)),?_,?_⟩
  · refine List.nodup_append'.mpr ⟨distinct.filter _,fresh.1.sublist p.namesSublist,fun name kept added => ?_⟩
    obtain ⟨queued,waiting,stands⟩ := waitingNamed named (List.mem_of_mem_filter kept)
    exact fresh.2 name (p.namesSublist.subset added) queued waiting stands
  · rw [p.retransmitQueue]
    exact List.rel_append (filterNamed named fun _ _ => p.keepsName) (nacksNamed ..)

/- Accepted frames get an identifier of their own, so the names keep their meaning. -/
theorem Backlog.accept {s : StreamState} (b : Backlog s) (aes : BlockCipher) (frame : EncodedFrame)
    (room : s.inFlightIdSpan < maxUnackedFrames) : Backlog (s.acceptFrame aes frame) := by
  obtain ⟨names,distinct,named⟩ := b.named
  refine ⟨acceptWindow b.window room aes frame,names,distinct,named.imp ?_⟩
  intro name queued ⟨same,pending,found,stored⟩
  have below := (b.window.inside name.frameId (by simp [found])).2
  refine ⟨same,pending,?_,stored⟩
  rw [acceptFind b.window room,if_neg (by omega)]
  exact found

theorem Backlog.quiet {s t : StreamState} (b : Backlog s) (window : Window t) (same : Quiet s t) : Backlog t := by
  obtain ⟨names,distinct,named⟩ := b.named
  refine ⟨window,names,distinct,?_⟩
  rw [same.retransmitQueue]
  exact named.imp fun name queued named => by simpa only [Names,same.find] using named

theorem Backlog.next {s : StreamState} (b : Backlog s) (window : Window s.nextPacket.2) : Backlog s.nextPacket.2 := by
  obtain ⟨names,distinct,named⟩ := b.named
  refine ⟨window,names.tail,distinct.sublist (List.tail_sublist _),?_⟩
  simp only [nextPacket]
  split
  · rename_i queued rest head
    rw [head,List.forall₂_cons_right_iff] at named
    obtain ⟨name,names,_,tail,rfl⟩ := named
    exact tail
  · rename_i drained
    rw [drained,List.forall₂_nil_right_iff] at named
    split <;> simp [drained,named]

theorem stepBacklog {aes : BlockCipher} {s : StreamState} {operation : Operation} (b : Backlog s)
    (fresh : ∀ feedback, operation = .castFeedback feedback → s.Fresh feedback) : Backlog (step aes s operation).1 := by
  have effect := stepEffect aes s operation
  have window := effectWindow b.window effect
  cases operation with
  | enqueueFrame frame =>
    rcases enqueueCases aes s frame with ⟨_,room,result⟩ | ⟨error,result⟩
    · simp only [step,result]
      exact b.accept aes frame room
    · refine b.quiet window (effect.ofSilent ?_)
      simp only [step,result,rejectFrame]
      rfl
  | castFeedback feedback => exact b.process (fresh feedback rfl)
  | nextPacket => exact b.next window
  | recordPacketSent | setTargetPlayoutDelay | recordSenderReport | receiverReport | receiverReferenceTime =>
    exact b.quiet window (effect.ofSilent rfl)

def pendingFrames (s : StreamState) : List PendingFrame := s.pending.toList.filterMap id

def pendingPackets (s : StreamState) : Nat := (s.pendingFrames.map fun frame => frame.packets.length).sum

def pendingNames (s : StreamState) : List PacketName :=
  s.pendingFrames.flatMap fun frame => (List.range frame.packets.length).map (PacketName.mk frame.frameId)

theorem pendingNamesLength (s : StreamState) : s.pendingNames.length = s.pendingPackets := by
  simp [pendingNames,pendingPackets,List.length_flatMap]

theorem foundPending {s : StreamState} {id : Int} {pending : PendingFrame} (found : s.find id = some pending) :
    pending ∈ s.pendingFrames ∧ pending.frameId = id := by
  obtain ⟨stored,key⟩ := Table.findSome.mp found
  refine ⟨List.mem_filterMap.mpr ⟨some pending,?_,rfl⟩,key⟩
  rw [← stored]
  exact Vector.mem_toList_iff.mpr (Vector.getElem_mem _)

theorem Names.pending {s : StreamState} {name : PacketName} {queued : QueuedPacket} (named : s.Names name queued) :
    name ∈ s.pendingNames := by
  obtain ⟨_,pending,found,stored⟩ := named
  obtain ⟨member,key⟩ := foundPending found
  have inside := (List.getElem?_eq_some_iff.mp stored).1
  refine List.mem_flatMap.mpr ⟨pending,member,List.mem_map.mpr ⟨name.position,List.mem_range.mpr inside,?_⟩⟩
  rw [key]

theorem Backlog.bounded {s : StreamState} (b : Backlog s) : s.retransmitQueue.length ≤ s.pendingPackets := by
  obtain ⟨names,distinct,named⟩ := b.named
  have listed : ∀ name ∈ names, name ∈ s.pendingNames :=
    ((List.forall₂_and_left _ _).mp (named.imp fun name queued named => ⟨named.pending,named⟩)).1
  calc s.retransmitQueue.length
      = names.length := named.length_eq.symm
    _ ≤ s.pendingNames.length := (distinct.subperm listed).length_le
    _ = s.pendingPackets := pendingNamesLength s

theorem backlogBounded (aes : BlockCipher) (parameters : StreamParameters) (sequenceNumber : UInt16)
    (operations : List Operation)
    (fresh : ∀ done feedback rest, operations = done ++ .castFeedback feedback::rest →
      (run aes parameters sequenceNumber done).1.Fresh feedback) :
    let s := (run aes parameters sequenceNumber operations).1
    (∃ names : List PacketName, names.Nodup ∧ List.Forall₂ s.Names names s.retransmitQueue) ∧
    s.retransmitQueue.length ≤ s.pendingPackets ∧ s.pendingFrames.length ≤ 120 := by
  intro s
  have b : Backlog s := Machine.runGuarded (step aes) (fun t operation b fresh => stepBacklog b fresh)
    (newBacklog parameters sequenceNumber) fun done operation rest split feedback same => by
      subst same
      exact fresh done feedback rest split
  exact ⟨b.named,b.bounded,(List.length_filterMap_le ..).trans (Vector.length_toList ..).le⟩

def nackFirst (nacks : List PacketNack) : List Operation :=
  [.enqueueFrame ⟨.keyFrame,[1],0,0,none⟩,.castFeedback ⟨2,1,255,400,nacks,none⟩]

def nackTwice : List Operation :=
  nackFirst [⟨256,0⟩] ++ [.nextPacket,.castFeedback ⟨2,1,255,400,[⟨256,0⟩],none⟩]

theorem backlogTwoNacks :
    let s := (run (fun _ block => block) exampleParameters 0 nackTwice).1
    s.retransmitQueue.length = 1 ∧ s.retransmitQueue.length ≤ s.pendingPackets := by
  intro s
  refine ⟨by decide +kernel,(backlogBounded (fun _ block => block) exampleParameters 0 nackTwice ?_).2.1⟩
  intro done feedback rest split
  simp only [nackTwice,nackFirst,List.cons_append,List.nil_append] at split
  match done,split with
  | [],split => simp at split
  | [_],split =>
    simp only [List.cons_append,List.nil_append,List.cons.injEq,Operation.castFeedback.injEq] at split
    obtain ⟨rfl,rfl,_⟩ := split
    decide +kernel
  | [_,_],split => simp at split
  | [_,_,_],split =>
    simp only [List.cons_append,List.nil_append,List.cons.injEq,Operation.castFeedback.injEq] at split
    obtain ⟨rfl,rfl,rfl,rfl,_⟩ := split
    decide +kernel
  | _::_::_::_::_,split => simp at split

theorem backlogRepeats :
    let s := (run (fun _ block => block) exampleParameters 0 (nackFirst [⟨256,0⟩,⟨256,0⟩])).1
    s.retransmitQueue.length = 2 ∧ s.pendingPackets = 1 ∧
    s.retransmitQueue[0]? = s.retransmitQueue[1]? := by
  decide +kernel

end Chromiacast.StreamState
