import Chromiacast.RtcpGrammar
import Chromiacast.Routing

/-! The Cast feedback packet as a receiver writes it, with frames under their full
identifiers, and that the sender's parser reads it back. Only the low byte of an
identifier is on the wire. -/
namespace Chromiacast
open Basis CompoundRtcpPacket

/- Missing packets of one frame: `packetId` and those its bits count from there. -/
structure Loss where
  frameId : Int
  packetId : UInt16
  bitvector : UInt8
  deriving DecidableEq, Repr

def Loss.field (l : Loss) : LossField := ⟨FrameId.truncate l.frameId,l.packetId,l.bitvector⟩

structure Report where
  checkpoint : Int
  playoutDelayMs : UInt16
  losses : List Loss
  ack : Option AckBitvector
  fewLosses : losses.length < 256
  lossesFit : ∀ l ∈ losses, l.field.Fits
  fewOctets : ∀ a ∈ ack, a.data.length < 256
  deriving DecidableEq, Repr

def LossField.encode (f : LossField) : Bytes := [f.withinFrameId] ++ be 2 f.packetId.toNat ++ [f.bitvector]

def encodeAck : Option AckBitvector → Bytes
  | none => []
  | some ack =>
    be 4 castAckMagic.toNat ++ [ack.feedbackCount,UInt8.ofNat ack.data.length] ++ ack.data ++
      List.replicate ((4-(6+ack.data.length) % 4) % 4) 0

namespace Report

def fields (m : Report) : List LossField := m.losses.map Loss.field

def header (m : Report) (sources : SyncSource × SyncSource) : Bytes :=
  be 4 sources.2.toNat ++ be 4 sources.1.toNat ++ be 4 castFeedbackMagic.toNat ++
    [FrameId.truncate m.checkpoint,UInt8.ofNat m.losses.length] ++ be 2 m.playoutDelayMs.toNat

def payload (m : Report) (sources : SyncSource × SyncSource) : Bytes :=
  m.header sources ++ (m.fields.flatMap LossField.encode ++ encodeAck m.ack)

def encode (m : Report) (sources : SyncSource × SyncSource) : Bytes :=
  [0x80 ||| rtcpSubtypeFeedback,rtcpPayloadSpecific] ++ be 2 ((m.payload sources).length/4) ++ m.payload sources

def feedback (m : Report) (sources : SyncSource × SyncSource) : CastFeedback :=
  ⟨sources.2,sources.1,FrameId.truncate m.checkpoint,m.playoutDelayMs,
    m.fields.flatMap (LossField.nacks (FrameId.truncate m.checkpoint)),m.ack⟩

end Report

theorem byteAtAppend (a b : Bytes) (k : Nat) : byteAt (a ++ b) (a.length+k) = byteAt b k := by
  rw [byteAt,byteAt,List.getD_append_right _ _ _ _ (by omega)]
  congr 1
  omega

theorem u32AtAppend (a b : Bytes) (k : Nat) : u32At (a ++ b) (a.length+k) = u32At b k := by
  rw [u32At,u32At,List.drop_length_add_append]

theorem u16Encoded (x : UInt16) : UInt16.ofNat (readBE (be 2 x.toNat)) = x := by
  rw [readBeExact x.toNat_lt]
  simp

theorem u32Encoded (x : UInt32) : UInt32.ofNat (readBE (be 4 x.toNat)) = x := by
  rw [readBeExact x.toNat_lt]
  simp

theorem u32AtFront (head : Bytes) (x : UInt32) (rest : Bytes) :
    u32At (head ++ (be 4 x.toNat ++ rest)) head.length = x := by
  have front : (be 4 x.toNat ++ rest).take 4 = be 4 x.toNat := List.take_left' (beLength ..)
  rw [← Nat.add_zero head.length,u32AtAppend,u32At,List.drop_zero,front,u32Encoded]

theorem lossFieldEncoded (head : Bytes) (f : LossField) (rest : Bytes) :
    lossFieldAt (head ++ (f.encode ++ rest)) head.length = f := by
  have bytes (k : Nat) := byteAtAppend head (f.encode ++ rest) k
  have packet : u16At (head ++ (f.encode ++ rest)) (head.length+1) = f.packetId := by
    rw [u16At,Nat.add_assoc,bytes,bytes]
    exact u16Encoded f.packetId
  rw [lossFieldAt,packet,bytes,← Nat.add_zero head.length,bytes]
  rfl

theorem lossFieldsEncoded (head : Bytes) (fields : List LossField) (rest : Bytes) :
    strided (lossFieldAt (head ++ (fields.flatMap LossField.encode ++ rest))) head.length 4 fields.length =
      fields := by
  induction fields generalizing head with
  | nil => rfl
  | cons f fields ih =>
    have next := ih (head ++ f.encode)
    have width : (head ++ f.encode).length = head.length+4 := by simp [LossField.encode]
    rw [width,List.append_assoc,← List.append_assoc f.encode] at next
    rw [List.flatMap_cons,List.length_cons,stridedSucc,next,List.append_assoc,lossFieldEncoded]

theorem ackEncodedLength (ack : Option AckBitvector) : (encodeAck ack).length % 4 = 0 ∧
    ∀ a ∈ ack, 6+a.data.length ≤ (encodeAck ack).length := by
  cases ack with
  | none => simp [encodeAck]
  | some a =>
    simp only [encodeAck,List.length_append,beLength,List.length_cons,List.length_nil,List.length_replicate,
      Option.mem_some_iff,forall_eq']
    omega

theorem hasAckEncoded (head : Bytes) (ack : Option AckBitvector) :
    hasAck (head ++ encodeAck ack) head.length ↔ ack.isSome := by
  have read := u32AtAppend head (encodeAck ack) 0
  rw [Nat.add_zero] at read
  rw [hasAck,read,List.length_append]
  cases ack with
  | none => simp [encodeAck]
  | some a =>
    have long := (ackEncodedLength (some a)).2 a rfl
    have magic : u32At (encodeAck (some a)) 0 = castAckMagic := by
      simp only [encodeAck,List.append_assoc]
      exact u32AtFront [] castAckMagic _
    simp only [magic,Option.isSome_some,and_true]
    exact ⟨fun _ => trivial,fun _ => by omega⟩

theorem ackOctetsEncoded (head : Bytes) {a : AckBitvector} (few : a.data.length < 256) :
    ackOctets (head ++ encodeAck (some a)) head.length = a.data.length := by
  rw [ackOctets,byteAtAppend]
  exact UInt8.toNat_ofNat_of_lt few

theorem ackEncoded (head : Bytes) {ack : Option AckBitvector} (few : ∀ a ∈ ack, a.data.length < 256) :
    ackAt (head ++ encodeAck ack) head.length = ack := by
  cases ack with
  | none =>
    have absent : ¬ hasAck (head ++ encodeAck none) head.length := by simp [hasAckEncoded]
    exact if_neg absent
  | some a =>
    have present : hasAck (head ++ encodeAck (some a)) head.length := by simp [hasAckEncoded]
    have octets := ackOctetsEncoded head (few a rfl)
    have data : (encodeAck (some a)).drop 6 = a.data ++ List.replicate ((4-(6+a.data.length) % 4) % 4) 0 := rfl
    rw [ackAt,if_pos present,octets,byteAtAppend,List.drop_length_add_append,data,List.take_left]
    rfl

namespace Report
variable (m : Report) (sources : SyncSource × SyncSource)

theorem headerLength : (m.header sources).length = 16 := rfl

theorem fieldsLength : (m.fields.flatMap LossField.encode).length = 4*m.losses.length := by
  have width (f : LossField) : f.encode.length = 4 := rfl
  simp [List.length_flatMap,width,fields,Nat.mul_comm,Function.comp_def]

theorem payloadLength : (m.payload sources).length = 16+4*m.losses.length+(encodeAck m.ack).length := by
  rw [payload,List.length_append,List.length_append,headerLength,fieldsLength]
  omega

theorem countEncoded : lossFieldCount (m.payload sources) = m.losses.length :=
  UInt8.toNat_ofNat_of_lt m.fewLosses

theorem headerWords : ∃ rest, m.payload sources =
    be 4 sources.2.toNat ++ (be 4 sources.1.toNat ++ (be 4 castFeedbackMagic.toNat ++ rest)) := by
  rw [payload,header]
  simp only [List.append_assoc]
  exact ⟨_,rfl⟩

theorem receiverEncoded : u32At (m.payload sources) 0 = sources.2 := by
  obtain ⟨rest,split⟩ := m.headerWords sources
  rw [split]
  exact u32AtFront [] sources.2 _

theorem senderEncoded : u32At (m.payload sources) 4 = sources.1 := by
  obtain ⟨rest,split⟩ := m.headerWords sources
  rw [split]
  exact u32AtFront (be 4 sources.2.toNat) sources.1 _

theorem magicEncoded : u32At (m.payload sources) 8 = castFeedbackMagic := by
  obtain ⟨rest,split⟩ := m.headerWords sources
  rw [split,← List.append_assoc]
  exact u32AtFront (be 4 sources.2.toNat ++ be 4 sources.1.toNat) castFeedbackMagic rest

theorem fieldsEncoded : strided (lossFieldAt (m.payload sources)) 16 4 m.losses.length = m.fields := by
  have read := lossFieldsEncoded (m.header sources) m.fields (encodeAck m.ack)
  rwa [headerLength,show m.fields.length = m.losses.length by simp [fields]] at read

theorem payloadSplit : ∃ head, head.length = 16+4*m.losses.length ∧ m.payload sources = head ++ encodeAck m.ack := by
  refine ⟨m.header sources ++ m.fields.flatMap LossField.encode,?_,by rw [payload,List.append_assoc]⟩
  rw [List.length_append,headerLength,fieldsLength]

theorem body : CastBody (m.payload sources) := by
  obtain ⟨head,length,split⟩ := m.payloadSplit sources
  have count := m.countEncoded sources
  have long := m.payloadLength sources
  refine ⟨by omega,m.magicEncoded sources,by omega,?_,?_⟩
  · rw [count,fieldsEncoded]
    intro f member
    obtain ⟨l,named,rfl⟩ := List.mem_map.mp member
    exact m.lossesFit l named
  · rw [count,split,← length,hasAckEncoded]
    intro present
    obtain ⟨a,same⟩ := Option.isSome_iff_exists.mp present
    have enough := (ackEncodedLength m.ack).2 a same
    have octets := ackOctetsEncoded head (m.fewOctets a same)
    rw [same] at enough ⊢
    rw [octets,List.length_append]
    omega

theorem feedbackEncoded : castFeedbackAt (m.payload sources) = m.feedback sources := by
  obtain ⟨head,length,split⟩ := m.payloadSplit sources
  have ack : ackAt (m.payload sources) (16+4*m.losses.length) = m.ack := by
    rw [split,← length]
    exact ackEncoded head m.fewOctets
  have delay : u16At (m.payload sources) 14 = m.playoutDelayMs := u16Encoded m.playoutDelayMs
  have checkpoint : byteAt (m.payload sources) 12 = FrameId.truncate m.checkpoint := rfl
  rw [castFeedbackAt,countEncoded,ack,fieldsEncoded,delay,receiverEncoded,senderEncoded,checkpoint,
    feedback]

theorem parseEncoded : parseCompound (m.encode sources) =
    .ok {empty with castFeedbacks := [m.feedback sources]} := by
  have long := m.payloadLength sources
  have aligned := (ackEncodedLength m.ack).1
  have few := m.fewLosses
  have short : (encodeAck m.ack).length ≤ 6+255+3 := by
    cases same : m.ack with
    | none => simp [encodeAck]
    | some a =>
      have octets := m.fewOctets a same
      simp only [encodeAck,List.length_append,beLength,List.length_cons,List.length_nil,List.length_replicate]
      omega
  let n := (m.payload sources).length/4
  have size : (m.payload sources).length = 4*(u16FromBeBytes (UInt8.ofNat (n/256)) (UInt8.ofNat n)).toNat := by
    have words : readBE (be 2 n) = n := readBeExact (by omega)
    have read : u16FromBeBytes (UInt8.ofNat (n/256)) (UInt8.ofNat n) = UInt16.ofNat n := congrArg UInt16.ofNat words
    rw [read,UInt16.toNat_ofNat',Nat.mod_eq_of_lt (by omega)]
    omega
  have packet := Compound.packet (by decide : ((0x80 ||| rtcpSubtypeFeedback) >>> 6) &&& 0x03 = 2) size
    (.castFeedback (by decide) (m.body sources)) .nil
  rw [feedbackEncoded,appendEmpty,List.append_nil] at packet
  exact ((parseCompoundSpec _).1 _).mpr packet

theorem classified : classifyPacket (m.encode sources) = .rtcp (u32At (m.encode sources) 4) := by
  have long : ¬ (m.encode sources).length < 8 := by
    have payload := m.payloadLength sources
    simp only [encode,List.length_append,beLength,List.length_cons]
    omega
  have first : (m.encode sources).getD 0 0 = 0x8F := rfl
  have second : (m.encode sources).getD 1 0 = 206 := rfl
  rw [classifyPacket,if_neg long,first,second]
  rfl

end Report

def Session.alone (type : StreamType) (s : StreamState) : Session := Session.put ⟨none,none⟩ type s

def StreamState.receiveDatagram (type : StreamType) (s : StreamState) (data : Bytes) (receivedAt : Nat) :
    StreamState × List SenderEvent :=
  let result := (Session.alone type s).receiveDatagram data receivedAt
  ((result.session.get type).getD s,result.events)

theorem StreamState.receiveEncoded (type : StreamType) (s : StreamState) (m : Report) (receivedAt : Nat) :
    let result := s.processCastFeedback (m.feedback s.sources)
    s.receiveDatagram type (m.encode s.sources) receivedAt =
      (result.1,result.2.1.map (SenderEvent.frameAcked type) ++
        result.2.2.map (fun r => .packetRetransmission type r.frameId r.packetId r.packetsQueued)) := by
  have own : (m.feedback s.sources).senderSyncSource = s.senderSyncSource := rfl
  have addressed : s.acceptsReceiverSyncSource (m.feedback s.sources).receiverSyncSource := by
    simp [acceptsReceiverSyncSource,Report.feedback,sources]
  have found : (Session.alone type s).findStreamBySenderSyncSource s.senderSyncSource = (type,some s) := by
    cases type <;> simp [Session.alone,Session.put,Session.findStreamBySenderSyncSource,Session.locate]
  simp only [StreamState.receiveDatagram,Session.receiveDatagram,m.classified,m.parseEncoded]
  simp [Session.containsReceiverFeedback,Session.processFeedback,empty,Session.processCast,own,found,addressed,
    Session.putGet]

end Chromiacast
