import Chromiacast.Rtcp

/-! What the packets of a compound say, read directly from their payloads, and that
each packet parser returns exactly this on exactly the well-formed payloads. -/
namespace Chromiacast
open Basis CompoundRtcpPacket

def byteAt (data : Bytes) (offset : Nat) : UInt8 := data.getD offset 0

def u16At (data : Bytes) (offset : Nat) : UInt16 := u16FromBeBytes (byteAt data offset) (byteAt data (offset+1))

theorem indexByte {ε : Type} {data : Bytes} {offset : Nat} (inside : offset < data.length) :
    (index data offset : Outcome ε UInt8) = .ok (byteAt data offset) := by
  rw [indexIn inside,byteAt,List.getD_eq_getElem?_getD,List.getElem?_eq_getElem inside]
  rfl

theorem u32AtBytes {data : Bytes} {offset : Nat} (inside : offset+4 ≤ data.length) :
    u32At data offset = u32FromBeBytes (byteAt data offset) (byteAt data (offset+1)) (byteAt data (offset+2))
      (byteAt data (offset+3)) := by
  have four : (data.drop offset).take 4 = [byteAt data offset,byteAt data (offset+1),byteAt data (offset+2),
      byteAt data (offset+3)] := by
    apply List.ext_getElem
    · simp; omega
    · intro i left right
      have small : i < 4 := by simpa using right
      have bound : offset+i < data.length := by omega
      rw [List.getElem_take,List.getElem_drop]
      have value : data[offset+i] = byteAt data (offset+i) := by
        rw [byteAt,List.getD_eq_getElem?_getD,List.getElem?_eq_getElem bound]
        rfl
      rw [value]
      interval_cases i <;> rfl
  rw [u32At,four]
  rfl

theorem readU32In {data : Bytes} {offset : Nat} (inside : offset+4 ≤ data.length) :
    readU32 data offset = .ok (u32At data offset) := by
  rw [u32AtBytes inside,readU32,indexByte (by omega),indexByte (by omega),indexByte (by omega),indexByte (by omega)]
  rfl

def i24At (data : Bytes) (offset : Nat) : Int32 :=
  i24FromBytes (byteAt data offset) (byteAt data (offset+1)) (byteAt data (offset+2))

theorem readI24In {data : Bytes} {offset : Nat} (inside : offset+3 ≤ data.length) :
    readI24 data offset = .ok (i24At data offset) := by
  rw [readI24,indexByte (by omega),indexByte (by omega),indexByte (by omega)]
  rfl

def reportAt (receiverSyncSource : SyncSource) (payload : Bytes) (offset : Nat) : ReceiverReport :=
  ⟨receiverSyncSource,u32At payload offset,byteAt payload (offset+4),i24At payload (offset+5),
    u32At payload (offset+8),u32At payload (offset+12),u32At payload (offset+16),u32At payload (offset+20)⟩

theorem reportBlocksSpec {payload : Bytes} (source : SyncSource) (n : Nat) {offset : Nat}
    (inside : offset ≤ payload.length) (out : List ReceiverReport) :
    (reportBlocks payload source n offset out).Recognises fun reports => offset+24*n ≤ payload.length ∧
      reports = out ++ strided (reportAt source payload) offset 24 n := by
  induction n generalizing offset out with
  | zero =>
    refine (Outcome.Recognises.ok out).congr ?_
    simp [inside,strided]
  | succ n ih =>
    refine Outcome.Recognises.reject _ (fun short reports => by omega) ?_
    intro enough
    rw [readU32In (by omega),indexByte (by omega),readI24In (by omega),readU32In (by omega),readU32In (by omega),
      readU32In (by omega),readU32In (by omega)]
    refine (ih (by omega : offset+24 ≤ payload.length) _).congr ?_
    intro reports
    rw [stridedSucc,List.append_assoc]
    exact and_congr (by omega) Iff.rfl

theorem parseReceiverReportSpec (payload : Bytes) (count : UInt8) (out : List ReceiverReport) :
    (parseReceiverReport payload count out).Recognises fun reports => 4+24*count.toNat ≤ payload.length ∧
      reports = out ++ strided (reportAt (u32At payload 0) payload) 4 24 count.toNat := by
  refine Outcome.Recognises.reject _ (fun short reports => by omega) ?_
  intro enough
  rw [readU32In (by omega)]
  exact reportBlocksSpec _ _ (by omega) out

structure LossField where
  withinFrameId : UInt8
  packetId : UInt16
  bitvector : UInt8
  deriving DecidableEq, Repr

def lossFieldAt (payload : Bytes) (offset : Nat) : LossField :=
  ⟨byteAt payload offset,u16At payload (offset+1),byteAt payload (offset+3)⟩

namespace LossField

def Fits (f : LossField) : Prop :=
  f.packetId = allPacketsLost ∨
    ∀ bit < 8, f.bitvector.toNat.testBit bit → f.packetId.toNat+(1+bit) ≤ 0xFFFF

instance (f : LossField) : Decidable f.Fits := inferInstanceAs (Decidable (_ ∨ _))

def packets (f : LossField) : List UInt16 :=
  f.packetId::if f.packetId = allPacketsLost then [] else
    ((List.range 8).filter f.bitvector.toNat.testBit).map fun bit => UInt16.ofNat (f.packetId.toNat+(1+bit))

def nacks (checkpointFrameId : UInt8) (f : LossField) : List PacketNack :=
  f.packets.map (PacketNack.mk (FrameId.expand f.withinFrameId checkpointFrameId.toNat))

end LossField

theorem lossBitsSpec (frameId : Int) (packetId : UInt16) (bitvector : UInt8) (bits : List Nat)
    (nacks : List PacketNack) :
    (lossBits frameId packetId bitvector bits nacks).Recognises fun all =>
      (∀ bit ∈ bits, bitvector.toNat.testBit bit → packetId.toNat+(1+bit) ≤ 0xFFFF) ∧
      all = nacks ++ (bits.filter bitvector.toNat.testBit).map
        (fun bit => ⟨frameId,UInt16.ofNat (packetId.toNat+(1+bit))⟩) := by
  induction bits generalizing nacks with
  | nil =>
    refine (Outcome.Recognises.ok nacks).congr ?_
    simp
  | cons bit rest ih =>
    simp only [lossBits]
    by_cases set : bitvector.toNat.testBit bit
    · rw [if_pos set]
      refine Outcome.Recognises.reject _ (fun large all h => ?_) (fun fits => ?_)
      · have bound := h.1 bit List.mem_cons_self set
        omega
      · refine (ih _).congr ?_
        intro all
        simp only [List.forall_mem_cons,List.filter_cons_of_pos set,List.map_cons,List.append_assoc,
          List.singleton_append]
        exact and_congr_left fun _ => ⟨fun h => ⟨fun _ => by omega,h⟩,And.right⟩
    · rw [if_neg set]
      refine (ih _).congr ?_
      intro all
      simp [set]

theorem lossFieldSpec (checkpoint : UInt8) (f : LossField) (nacks : List PacketNack) :
    (lossField (FrameId.expand f.withinFrameId checkpoint.toNat) f.packetId f.bitvector nacks).Recognises
      fun all => f.Fits ∧ all = nacks ++ f.nacks checkpoint := by
  unfold lossField
  by_cases every : f.packetId = allPacketsLost
  · simp only [if_pos every]
    refine (Outcome.Recognises.ok _).congr ?_
    simp [LossField.Fits,LossField.nacks,LossField.packets,every]
  · simp only [if_neg every]
    refine (lossBitsSpec ..).congr ?_
    intro all
    simp [LossField.Fits,LossField.nacks,LossField.packets,every,Function.comp_def]

theorem lossFieldsSpec {payload : Bytes} (checkpoint : UInt8) (n : Nat) {offset : Nat}
    (inside : offset ≤ payload.length) (nacks : List PacketNack) :
    (lossFields payload checkpoint n offset nacks).Recognises fun all => offset+4*n ≤ payload.length ∧
      (∀ f ∈ strided (lossFieldAt payload) offset 4 n, f.Fits) ∧
      all = nacks ++ (strided (lossFieldAt payload) offset 4 n).flatMap (LossField.nacks checkpoint) := by
  induction n generalizing offset nacks with
  | zero =>
    refine (Outcome.Recognises.ok nacks).congr ?_
    simp [inside,strided]
  | succ n ih =>
    refine Outcome.Recognises.reject _ (fun short all => by omega) ?_
    intro enough
    rw [indexByte (by omega),indexByte (by omega),indexByte (by omega),indexByte (by omega)]
    have field := lossFieldSpec checkpoint (lossFieldAt payload offset) nacks
    refine (field.bind fun all _ => ih (by omega : offset+4 ≤ payload.length) all).congr ?_
    intro all
    rw [stridedSucc]
    simp only [List.forall_mem_cons,List.flatMap_cons]
    constructor
    · rintro ⟨_,⟨fits,rfl⟩,bound,rest,rfl⟩
      exact ⟨by omega,⟨fits,rest⟩,List.append_assoc ..⟩
    · rintro ⟨bound,⟨fits,rest⟩,rfl⟩
      exact ⟨_,⟨fits,rfl⟩,by omega,rest,(List.append_assoc ..).symm⟩

def hasAck (payload : Bytes) (offset : Nat) : Prop := offset+6 ≤ payload.length ∧ u32At payload offset = castAckMagic

instance (payload : Bytes) (offset : Nat) : Decidable (hasAck payload offset) := inferInstanceAs (Decidable (_ ∧ _))

def ackOctets (payload : Bytes) (offset : Nat) : Nat := (byteAt payload (offset+5)).toNat

def ackAt (payload : Bytes) (offset : Nat) : Option AckBitvector :=
  if hasAck payload offset then
    some ⟨byteAt payload (offset+4),(payload.drop (offset+6)).take (ackOctets payload offset)⟩
  else none

theorem parseAckBitvectorSpec (payload : Bytes) (offset : Nat) :
    (parseAckBitvector payload offset).Recognises fun ack =>
      (hasAck payload offset → offset+6+ackOctets payload offset ≤ payload.length) ∧
      ack = ackAt payload offset := by
  unfold parseAckBitvector
  by_cases magic : offset+4 ≤ payload.length
  · rw [if_pos magic,readU32In magic]
    by_cases present : hasAck payload offset
    · have both : u32At payload offset = castAckMagic ∧ offset+6 ≤ payload.length := And.symm present
      simp only [Outcome.okBind,if_pos both]
      rw [indexByte (by omega),indexByte (by omega)]
      simp only [Outcome.okBind]
      by_cases octets : offset+6+(byteAt payload (offset+5)).toNat ≤ payload.length
      · rw [if_pos octets,sliceIn (by omega) octets]
        refine (Outcome.Recognises.ok _).congr ?_
        intro ack
        simp [present,ackAt,ackOctets,octets]
      · rw [if_neg octets]
        exact Outcome.Recognises.err _ (fun ack h => octets (h.1 present))
    · have neither : ¬ (u32At payload offset = castAckMagic ∧ offset+6 ≤ payload.length) :=
        fun both => present both.symm
      simp only [Outcome.okBind,if_neg neither]
      refine (Outcome.Recognises.ok _).congr ?_
      simp [present,ackAt]
  · have absent : ¬ hasAck payload offset := fun both => by
      have long := both.1
      omega
    rw [if_neg magic]
    refine (Outcome.Recognises.ok _).congr ?_
    simp [absent,ackAt]

def lossFieldCount (payload : Bytes) : Nat := (byteAt payload 13).toNat

structure CastBody (payload : Bytes) : Prop where
  header : 16 ≤ payload.length
  magic : u32At payload 8 = castFeedbackMagic
  losses : 16+4*lossFieldCount payload ≤ payload.length
  fits : ∀ f ∈ strided (lossFieldAt payload) 16 4 (lossFieldCount payload), f.Fits
  octets : hasAck payload (16+4*lossFieldCount payload) →
    16+4*lossFieldCount payload+6+ackOctets payload (16+4*lossFieldCount payload) ≤ payload.length

def castFeedbackAt (payload : Bytes) : CastFeedback :=
  ⟨u32At payload 0,u32At payload 4,byteAt payload 12,u16At payload 14,
    (strided (lossFieldAt payload) 16 4 (lossFieldCount payload)).flatMap (LossField.nacks (byteAt payload 12)),
    ackAt payload (16+4*lossFieldCount payload)⟩

def CompoundRtcpPacket.append (a b : CompoundRtcpPacket) : CompoundRtcpPacket :=
  ⟨a.receiverReports ++ b.receiverReports,a.castFeedbacks ++ b.castFeedbacks,a.pictureLoss ++ b.pictureLoss,
    a.receiverReferenceTimes ++ b.receiverReferenceTimes⟩

theorem parseCastFeedbackSpec (payload : Bytes) (out : CompoundRtcpPacket) :
    (parseCastFeedback payload out).Recognises fun result =>
      CastBody payload ∧ result = out.append {empty with castFeedbacks := [castFeedbackAt payload]} := by
  refine Outcome.Recognises.reject _ (fun short result h => by have long := h.1.header; omega) ?_
  intro long
  rw [readU32In (by omega),readU32In (by omega),readU32In (by omega)]
  refine Outcome.Recognises.reject _ (fun other result h => other h.1.magic) ?_
  intro magic
  rw [indexByte (by omega),indexByte (by omega),indexByte (by omega),indexByte (by omega)]
  have losses := lossFieldsSpec (byteAt payload 12) (lossFieldCount payload) (show 16 ≤ payload.length by omega) []
  have acks := parseAckBitvectorSpec payload (16+4*lossFieldCount payload)
  refine (losses.bind fun nacks _ => acks.bind fun ack _ => Outcome.Recognises.ok _).congr ?_
  intro result
  constructor
  · rintro ⟨nacks,⟨bound,fits,rfl⟩,ack,⟨octets,rfl⟩,rfl⟩
    refine ⟨⟨by omega,by simpa using magic,bound,fits,octets⟩,?_⟩
    simp [CompoundRtcpPacket.append,empty,castFeedbackAt,u16At]
  · rintro ⟨body,rfl⟩
    refine ⟨_,⟨body.losses,body.fits,rfl⟩,_,⟨body.octets,rfl⟩,?_⟩
    simp [CompoundRtcpPacket.append,empty,castFeedbackAt,u16At]

end Chromiacast
