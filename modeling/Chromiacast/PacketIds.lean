import Chromiacast.RtcpFields
import Chromiacast.RtpRoundTrip

/-! Packet identifiers on both sides of the wire. A loss field names packets by
16-bit identifiers, one of which stands for the whole frame; the packets of a
frame carry their positions in 16 bits. Neither side keeps an ordinary packet
away from the identifier 0xFFFF. -/
namespace Chromiacast
open Basis CompoundRtcpPacket

namespace LossField

def named (f : LossField) : List Nat :=
  f.packetId.toNat::((List.range 8).filter f.bitvector.toNat.testBit).map fun bit => f.packetId.toNat+(1+bit)

/- No set bit stands for the number that means all packets. -/
def Short (f : LossField) : Prop :=
  ∀ bit < 8, f.bitvector.toNat.testBit bit → f.packetId.toNat+(1+bit) ≠ 0xFFFF

instance (f : LossField) : Decidable f.Short := inferInstanceAs (Decidable (∀ bit < 8, _ → _))

theorem packetsNamed {f : LossField} (fits : f.Fits) (ordinary : f.packetId ≠ allPacketsLost) :
    f.packets.map UInt16.toNat = f.named := by
  have bounds := fits.resolve_left ordinary
  simp only [packets,named,if_neg ordinary,List.map_cons,List.map_map]
  congr 1
  apply List.map_congr_left
  intro bit member
  obtain ⟨inside,set⟩ := List.mem_filter.mp member
  have bound := bounds bit (List.mem_range.mp inside) set
  rw [Function.comp_apply,UInt16.toNat_ofNat',Nat.mod_eq_of_lt (by omega)]

theorem packetsOrdinary {f : LossField} (fits : f.Fits) (ordinary : f.packetId ≠ allPacketsLost) :
    allPacketsLost ∉ f.packets ↔ f.Short := by
  have own : f.packetId.toNat ≠ 0xFFFF := fun top => ordinary (UInt16.toNat_inj.mp top)
  have listed : allPacketsLost ∈ f.packets ↔ 0xFFFF ∈ f.named := by
    rw [← packetsNamed fits ordinary,List.mem_map]
    refine ⟨fun member => ⟨_,member,rfl⟩,?_⟩
    intro ⟨id,member,top⟩
    have same : id = allPacketsLost := UInt16.toNat_inj.mp top
    exact same ▸ member
  rw [listed]
  simp only [named,Short,List.mem_cons,List.mem_map,List.mem_filter,List.mem_range,not_or,not_exists,not_and]
  exact ⟨fun absent bit inside set => absent.2 bit ⟨inside,set⟩,
    fun short => ⟨own.symm,fun bit member => short bit member.1 member.2⟩⟩

end LossField

def lossFieldsOf (payload : Bytes) : List LossField := strided (lossFieldAt payload) 16 4 (lossFieldCount payload)

namespace StreamState

theorem handleNackOrdinary (s : StreamState) (id : Int) {packetId : UInt16} (ordinary : packetId ≠ allPacketsLost) :
    (s.handleNack id packetId).1.retransmitQueue = s.retransmitQueue ++
      ((s.find id).bind fun pending => pending.packets[packetId.toNat]?).toList.map (QueuedPacket.mk id) := by
  unfold handleNack requested
  cases s.find id with
  | none => simp
  | some pending => simp [Ne.symm ordinary]

end StreamState

theorem nackExpansion (payload : Bytes) (out result : CompoundRtcpPacket)
    (accepted : parseCastFeedback payload out = .ok result) :
    ∃ report : CastFeedback, result.castFeedbacks = out.castFeedbacks ++ [report] ∧
      report.nacks = (lossFieldsOf payload).flatMap (LossField.nacks report.checkpointFrameId) ∧
      (∀ f ∈ lossFieldsOf payload, f.packetId ≠ 0xFFFF →
        (f.nacks report.checkpointFrameId).map (fun nack => nack.packetId.toNat) = f.named ∧
        ∀ nack ∈ f.nacks report.checkpointFrameId,
          nack.frameId = FrameId.expand f.withinFrameId report.checkpointFrameId.toNat) ∧
      ((∀ f ∈ lossFieldsOf payload, f.packetId ≠ 0xFFFF → f.Short) ↔
        (∀ f ∈ lossFieldsOf payload, f.packetId ≠ 0xFFFF →
          ∀ nack ∈ f.nacks report.checkpointFrameId, nack.packetId ≠ allPacketsLost) ∧
        ∀ nack ∈ report.nacks,
          (∃ f ∈ lossFieldsOf payload, f.packetId = 0xFFFF ∧ nack ∈ f.nacks report.checkpointFrameId) ∨
          ∀ (s : StreamState) (id : Int), (s.handleNack id nack.packetId).1.retransmitQueue = s.retransmitQueue ++
            ((s.find id).bind fun pending => pending.packets[nack.packetId.toNat]?).toList.map
              (QueuedPacket.mk id)) := by
  obtain ⟨body,rfl⟩ := ((parseCastFeedbackSpec payload out).1 result).mp accepted
  have ordinaryIff (f : LossField) (member : f ∈ lossFieldsOf payload) (ordinary : f.packetId ≠ 0xFFFF) :
      (∀ nack ∈ f.nacks (byteAt payload 12), nack.packetId ≠ allPacketsLost) ↔ f.Short := by
    rw [← LossField.packetsOrdinary (body.fits f member) ordinary]
    simp only [LossField.nacks,List.forall_mem_map]
    exact ⟨fun each inside => each _ inside rfl,fun absent id inside same => absent (same ▸ inside)⟩
  refine ⟨castFeedbackAt payload,rfl,rfl,?_,fun short => ⟨?_,?_⟩,?_⟩
  · intro f member ordinary
    refine ⟨?_,fun nack produced => ?_⟩
    · rw [LossField.nacks,List.map_map]
      exact LossField.packetsNamed (body.fits f member) ordinary
    · obtain ⟨id,_,rfl⟩ := List.mem_map.mp produced
      rfl
  · intro f member ordinary
    exact (ordinaryIff f member ordinary).mpr (short f member ordinary)
  · intro nack produced
    obtain ⟨f,member,from'⟩ := List.mem_flatMap.mp produced
    by_cases whole : f.packetId = 0xFFFF
    · exact .inl ⟨f,member,whole,from'⟩
    · exact .inr fun s id =>
        s.handleNackOrdinary id ((ordinaryIff f member whole).mpr (short f member whole) nack from')
  · rintro ⟨absent,_⟩ f member ordinary
    exact (ordinaryIff f member ordinary).mp (absent f member ordinary)

namespace StreamState

def identifiers (packet : RtpPacket) : Option (UInt16 × UInt16) :=
  (parseCastRtp packet.data).map fun header => (header.packetId,header.maxPacketId)

theorem packetizedIdentifiers {aes : BlockCipher} {s : StreamState} {frame : EncodedFrame} {i : Nat}
    {packet : RtpPacket} (stored : (s.packetized aes frame).1[i]? = some packet) :
    identifiers packet = some (UInt16.ofNat i,UInt16.ofNat ((s.packetized aes frame).1.length-1)) := by
  have count := RtpPacketizer.packetizeCount s.packetizer (s.fields frame) (s.crypto.encrypt aes s.nextFrameId frame.data)
  rw [packetized,RtpPacketizer.packetizeSpec,List.getElem?_map] at stored
  obtain ⟨j,inside,rfl⟩ := Option.map_eq_some_iff.mp stored
  obtain ⟨_,rfl⟩ := List.getElem?_eq_some_iff.mp inside
  rw [identifiers,RtpPacketizer.packetParsed,packetized,count]
  simp [RtpPacketizer.reading]

theorem packetizedCount (aes : BlockCipher) (s : StreamState) {frame : EncodedFrame} {n : Nat} (positive : 0 < n)
    (length : frame.data.length = n*s.packetizer.maxPayloadSize) : (s.packetized aes frame).1.length = n := by
  rw [packetized,RtpPacketizer.packetizeCount]
  exact RtpPacketizer.fullPackets positive ((encryptLength ..).trans length)

end StreamState

def topLoss (bitvector : UInt8) : Bytes :=
  be 4 2 ++ be 4 1 ++ be 4 castFeedbackMagic.toNat ++ [255,1] ++ be 2 400 ++ [0,0xFF,0xFD,bitvector]

theorem nackExpansionTop : ∃ report : CastFeedback,
    parseCastFeedback (topLoss 1) empty = .ok {empty with castFeedbacks := [report]} ∧
    report.nacks.map (fun nack => nack.packetId.toNat) = [0xFFFD,0xFFFE] ∧
    ∀ nack ∈ report.nacks, nack.packetId ≠ allPacketsLost := by
  obtain ⟨report,listed,nacks,fields,exact'⟩ := nackExpansion (topLoss 1) empty
    {empty with castFeedbacks := [castFeedbackAt (topLoss 1)]} (by decide)
  have only : lossFieldsOf (topLoss 1) = [⟨0,0xFFFD,1⟩] := by decide
  have inside : ⟨0,0xFFFD,1⟩ ∈ lossFieldsOf (topLoss 1) := by rw [only]; exact List.mem_singleton.mpr rfl
  have named := (fields ⟨0,0xFFFD,1⟩ inside (by decide)).1
  have ordinary := (exact'.mp (by decide)).1 ⟨0,0xFFFD,1⟩ inside (by decide)
  have same : castFeedbackAt (topLoss 1) = report := List.head_eq_of_cons_eq listed
  rw [only,List.flatMap_singleton] at nacks
  refine ⟨report,by rw [← same]; decide,?_,?_⟩
  · rw [nacks,named]
    decide
  · intro nack member
    rw [nacks] at member
    exact ordinary nack member

/- A frame of two packets, and a report without the sentinel that asks for packet
0xFFFD and, through its second bit, for packet 0xFFFF. -/
theorem wholeFrameInvented : ∃ (report : CastFeedback) (id : Int) (s : StreamState) (first second : RtpPacket),
    parseCastFeedback (topLoss 2) empty = .ok {empty with castFeedbacks := [report]} ∧
    lossFieldsOf (topLoss 2) = [⟨0,0xFFFD,2⟩] ∧ report.nacks = [⟨256,0xFFFD⟩,⟨256,0xFFFF⟩] ∧
    (StreamState.new StreamState.exampleParameters 0).enqueueFrame (fun _ block => block)
      ⟨.keyFrame,List.replicate 2898 0,0,0,none⟩ = (.ok id,s) ∧
    s.sendQueue = [⟨id,first⟩,⟨id,second⟩] ∧
    (s.processCastFeedback report).1.retransmitQueue = [⟨id,first⟩,⟨id,second⟩] := by
  let stream := StreamState.new StreamState.exampleParameters 0
  let frame : EncodedFrame := ⟨.keyFrame,List.replicate 2898 0,0,0,none⟩
  let s := stream.acceptFrame (fun _ block => block) frame
  let report := castFeedbackAt (topLoss 2)
  have count : (stream.packetized (fun _ block => block) frame).1.length = 2 :=
    StreamState.packetizedCount _ stream (by decide) (by rw [List.length_replicate]; rfl)
  obtain ⟨first,second,two⟩ := List.length_eq_two.mp count
  have w : StreamState.Window s := StreamState.acceptWindow (StreamState.newWindow _ _) (by decide) _ frame
  have p := StreamState.processed w report
  have found : (s.processCastFeedback report).1.find 0 = some ⟨0,0,none,[first,second]⟩ := by
    have kept : StreamState.retires (s.decodeCheckpoint report) report.ackBitvector 0 = false := by decide
    rw [p.found,kept,← two]
    exact StreamState.acceptedPending _ stream frame
  refine ⟨report,0,s,first,second,by decide,by decide,by decide,
    StreamState.enqueueNew _ _ _ rfl (List.ne_nil_of_length_pos (by rw [List.length_replicate]; decide)),?_,?_⟩
  · have queue : s.sendQueue = [] ++ (stream.packetized (fun _ block => block) frame).1.map (QueuedPacket.mk 0) := rfl
    rw [queue,two]
    rfl
  · have nacks : report.nacks = [⟨256,0xFFFD⟩,⟨256,0xFFFF⟩] := by decide
    have named : FrameId.expand (FrameId.truncate 256) (s.decodeCheckpoint report) = 0 := by decide
    have empty : s.retransmitQueue = [] := rfl
    rw [p.retransmitQueue,nacks,empty]
    simp [StreamState.nackPackets,named,found,StreamState.requested,allPacketsLost]

namespace StreamState

theorem packetizedFew (aes : BlockCipher) (s : StreamState) (frame : EncodedFrame) :
    (s.packetized aes frame).1.length ≤ 65535 ↔ frame.data.length ≤ 65535*s.packetizer.maxPayloadSize := by
  rw [packetized,RtpPacketizer.packetizeCount,RtpPacketizer.numPacketsLe (by decide),encryptLength]

theorem packetIdsFaithful (aes : BlockCipher) (s t : StreamState) (frame : EncodedFrame) (id : Int)
    (accepted : s.enqueueFrame aes frame = (.ok id,t)) :
    ∃ pending : PendingFrame, t.find id = some pending ∧
      t.sendQueue = s.sendQueue ++ pending.packets.map (QueuedPacket.mk id) ∧
      ((∀ (i : Nat) (packet : RtpPacket), pending.packets[i]? = some packet →
        ∃ packetId maxPacketId : UInt16, identifiers packet = some (packetId,maxPacketId) ∧
          packetId.toNat = i ∧ maxPacketId.toNat = pending.packets.length-1 ∧ packetId ≠ allPacketsLost ∧
          (t.handleNack id packetId).1.retransmitQueue = t.retransmitQueue ++ [⟨id,packet⟩]) ↔
        frame.data.length ≤ 65535*s.packetizer.maxPayloadSize) := by
  obtain ⟨rfl,rfl⟩ := enqueueAccepted accepted
  refine ⟨_,acceptedPending aes s frame,rfl,?_⟩
  rw [← packetizedFew aes]
  constructor
  · intro faithful
    by_contra many
    have stored : (s.packetized aes frame).1[65535]? = some (s.packetized aes frame).1[65535] :=
      List.getElem?_eq_getElem (by omega)
    obtain ⟨packetId,_,_,position,_,ordinary,_⟩ := faithful 65535 _ stored
    exact ordinary (UInt16.toNat_inj.mp position)
  · intro few i packet stored
    have stored : (s.packetized aes frame).1[i]? = some packet := stored
    have inside := (List.getElem?_eq_some_iff.mp stored).1
    have position := indexWord (n := i) (by omega)
    have ordinary : UInt16.ofNat i ≠ allPacketsLost := fun top => by
      have value := congrArg UInt16.toNat top
      have sentinel : allPacketsLost.toNat = 65535 := rfl
      omega
    refine ⟨_,_,packetizedIdentifiers stored,position,indexWord (by omega),ordinary,?_⟩
    rw [handleNackOrdinary _ _ ordinary,acceptedPending,position,Option.bind_some,stored]
    rfl

theorem packetIdsThreePackets : ∃ pending : PendingFrame,
    (delayedStream.acceptFrame (fun _ block => block) tenBytes).find 0 = some pending ∧
    pending.packets.length = 3 ∧
    ∀ i packet, pending.packets[i]? = some packet → ∃ packetId maxPacketId : UInt16,
      identifiers packet = some (packetId,maxPacketId) ∧ packetId.toNat = i ∧ maxPacketId.toNat = 2 ∧
      packetId ≠ allPacketsLost := by
  obtain ⟨pending,found,queue,exact'⟩ := packetIdsFaithful (fun _ block => block) delayedStream _ tenBytes 0 rfl
  have three : pending.packets.length = 3 := by
    have sent : (delayedStream.acceptFrame (fun _ block => block) tenBytes).sendQueue.length = 3 := by decide +kernel
    have unsent : delayedStream.sendQueue.length = 0 := rfl
    have lengths := congrArg List.length queue
    rw [List.length_append,List.length_map] at lengths
    omega
  refine ⟨pending,found,three,fun i packet stored => ?_⟩
  obtain ⟨packetId,maxPacketId,read,position,last,ordinary,_⟩ := exact'.mpr (by decide) i packet stored
  exact ⟨packetId,maxPacketId,read,position,by rw [last,three],ordinary⟩

/- With 65537 packets the first and the last carry identifier 0, the one before the
last carries the sentinel, and every packet says that it is the only one. -/
theorem packetIdsWrap : ∃ (frame : EncodedFrame) (t : StreamState) (pending : PendingFrame)
    (first top last : RtpPacket),
    (new exampleParameters 0).enqueueFrame (fun _ block => block) frame = (.ok 0,t) ∧ t.find 0 = some pending ∧
    pending.packets.length = 65537 ∧ pending.packets[0]? = some first ∧ pending.packets[65535]? = some top ∧
    pending.packets[65536]? = some last ∧ identifiers first = some (0,0) ∧
    identifiers top = some (allPacketsLost,0) ∧ identifiers last = some (0,0) ∧
    (t.handleNack 0 allPacketsLost).2 = 65537 := by
  obtain ⟨frame,key,length⟩ : ∃ frame : EncodedFrame, frame.dependency = .keyFrame ∧ frame.data.length = 65537*1449 :=
    ⟨⟨.keyFrame,List.replicate (65537*1449) 0,0,0,none⟩,rfl,List.length_replicate⟩
  have nonempty : frame.data ≠ [] := List.ne_nil_of_length_pos (by omega)
  have count := packetizedCount (fun _ block => block) (new exampleParameters 0) (by decide : 0 < 65537) length
  have read (i : Nat) (inside : i < 65537) : ∃ packet,
      ((new exampleParameters 0).packetized (fun _ block => block) frame).1[i]? = some packet ∧
      identifiers packet = some (UInt16.ofNat i,UInt16.ofNat 65536) := by
    obtain ⟨packet,stored⟩ : ∃ packet, _[i]? = some packet := ⟨_,List.getElem?_eq_getElem (count ▸ inside)⟩
    have fields := packetizedIdentifiers stored
    rw [count] at fields
    exact ⟨packet,stored,fields⟩
  obtain ⟨first,atFirst,readFirst⟩ := read 0 (by decide)
  obtain ⟨top,atTop,readTop⟩ := read 65535 (by decide)
  obtain ⟨last,atLast,readLast⟩ := read 65536 (by decide)
  have found := acceptedPending (fun _ block => block) (new exampleParameters 0) frame
  refine ⟨frame,_,_,first,top,last,enqueueNew _ _ _ key nonempty,found,count,atFirst,atTop,atLast,readFirst,readTop,
    readLast,?_⟩
  have zero : (new exampleParameters 0).nextFrameId = 0 := rfl
  rw [zero] at found
  simp only [handleNack,found,requested,if_true]
  exact count

end StreamState
end Chromiacast
