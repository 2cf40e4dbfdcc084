import Chromiacast.Frame

/-! Packetization of one encrypted frame. Every datagram carries the 12-byte RTP
header, the 7-byte Cast header, on the first packet possibly the adaptive latency
extension, and its chunk of the payload. -/
namespace Chromiacast
open Basis

def rtpStandardHeaderSize : Nat := 12
def rtpBaseHeaderSize : Nat := rtpStandardHeaderSize+7
def adaptiveLatencyExtSize : Nat := 4
def rtpMaxHeaderSize : Nat := rtpBaseHeaderSize+adaptiveLatencyExtSize
def rtpRequiredFirstByte : UInt8 := 0x80

structure RtpPacket where
  data : Bytes
  deriving DecidableEq, Repr

/- `div_ceil` by zero panics, so the payload size of a packetizer is positive. -/
structure RtpPacketizer where
  syncSource : SyncSource
  payloadType : UInt8
  sequenceNumber : UInt16
  maxPayloadSize : Nat
  positive : 0 < maxPayloadSize
  deriving DecidableEq, Repr

structure FrameFields where
  frameId : Int
  isKeyFrame : Bool
  referencedFrameId : Int
  rtpTimestamp : UInt32
  newPlayoutDelay : Option Nat
  deriving DecidableEq, Repr

namespace RtpPacketizer

def new (syncSource : SyncSource) (payloadType : UInt8) (maxPacketSize : Nat)
    (room : rtpMaxHeaderSize < maxPacketSize) (sequenceNumber : UInt16) : RtpPacketizer :=
  ⟨syncSource,payloadType,sequenceNumber,maxPacketSize-rtpMaxHeaderSize,Nat.sub_pos_of_lt room⟩

def numPackets (p : RtpPacketizer) (payload : Bytes) : Nat :=
  if payload.isEmpty then 1 else (payload.length+p.maxPayloadSize-1)/p.maxPayloadSize

def chunk (p : RtpPacketizer) (payload : Bytes) (packetId : Nat) : Bytes :=
  let offset := packetId*p.maxPayloadSize
  let last := min (offset+p.maxPayloadSize) payload.length
  (payload.drop offset).take (last-offset)

def extension (f : FrameFields) (packetId : Nat) : Bytes :=
  match packetId,f.newPlayoutDelay with
  | 0,some delay =>
    let delayMs := UInt16.ofNat (delay/1000000)
    be 2 ((1 <<< 10) ||| 2) ++ be 2 delayMs.toNat
  | _,_ => []

def packet (p : RtpPacketizer) (f : FrameFields) (count : Nat) (payload : Bytes) (packetId : Nat) : RtpPacket :=
  let isLast := packetId = count-1
  let extCount : UInt8 := if packetId = 0 ∧ f.newPlayoutDelay.isSome then 1 else 0
  let markerAndPayloadType : UInt8 := (if isLast then 0x80 else 0x00) ||| (p.payloadType &&& 0x7F)
  let castByte : UInt8 := (extCount &&& 0x3F) ||| (if f.isKeyFrame then 0x80 else 0x00) ||| 0x40
  let maxPacketId := UInt16.ofNat (count-1)
  ⟨[rtpRequiredFirstByte,markerAndPayloadType] ++ be 2 p.sequenceNumber.toNat ++ be 4 f.rtpTimestamp.toNat ++
    be 4 p.syncSource.toNat ++ [castByte,FrameId.truncate f.frameId] ++ be 2 (UInt16.ofNat packetId).toNat ++
    be 2 maxPacketId.toNat ++ [FrameId.truncate f.referencedFrameId] ++ extension f packetId ++
    p.chunk payload packetId⟩

def advance (p : RtpPacketizer) : RtpPacketizer := {p with sequenceNumber := p.sequenceNumber+1}

def packetizeLoop (f : FrameFields) (count : Nat) (payload : Bytes) :
    RtpPacketizer → List Nat → List RtpPacket × RtpPacketizer
  | p,[] => ([],p)
  | p,packetId::rest =>
    let tail := packetizeLoop f count payload p.advance rest
    (p.packet f count payload packetId::tail.1,tail.2)

def packetize (p : RtpPacketizer) (f : FrameFields) (payload : Bytes) : List RtpPacket × RtpPacketizer :=
  let count := p.numPackets payload
  packetizeLoop f count payload p (List.range count)

end RtpPacketizer

inductive PacketType where
  | rtp (syncSource : SyncSource)
  | rtcp (syncSource : SyncSource)
  | unknown
  deriving DecidableEq, Repr

def u32At (data : Bytes) (offset : Nat) : UInt32 := UInt32.ofNat (readBE ((data.drop offset).take 4))

def classifyPacket (data : Bytes) : PacketType :=
  if data.length < 8 then .unknown else
    let firstByte := data.getD 0 0
    let secondByte := data.getD 1 0
    let pt := secondByte &&& 0x7F
    if firstByte = rtpRequiredFirstByte ∧ 96 ≤ pt ∧ pt ≤ 127 ∧ 12 ≤ data.length then .rtp (u32At data 8)
    else if firstByte &&& 0xC0 = 0x80 ∧ 200 ≤ secondByte ∧ secondByte ≤ 207 then .rtcp (u32At data 4)
    else .unknown

namespace RtpPacketizer

def after (p : RtpPacketizer) (count : Nat) : RtpPacketizer :=
  {p with sequenceNumber := p.sequenceNumber+UInt16.ofNat count}

theorem advanceAfter (p : RtpPacketizer) (count : Nat) : p.advance.after count = p.after (count+1) := by
  simp only [advance,after]
  congr 1
  rw [UInt16.add_assoc,UInt16.add_comm 1,← UInt16.ofNat_one,← UInt16.ofNat_add]

theorem afterZero (p : RtpPacketizer) : p.after 0 = p := by
  simp [after]

theorem loopSpec (f : FrameFields) (count : Nat) (payload : Bytes) (n first : Nat) (p : RtpPacketizer) :
    packetizeLoop f count payload p (List.range' first n) =
      ((List.range n).map (fun i => (p.after i).packet f count payload (first+i)),p.after n) := by
  induction n generalizing first p with
  | zero => simp [packetizeLoop,afterZero]
  | succ n ih =>
    rw [List.range'_succ,packetizeLoop,ih,List.range_succ_eq_map]
    simp [advanceAfter,afterZero,Function.comp_def,Nat.add_assoc,Nat.add_comm 1]

theorem packetizeSpec (p : RtpPacketizer) (f : FrameFields) (payload : Bytes) :
    p.packetize f payload = ((List.range (p.numPackets payload)).map
      (fun i => (p.after i).packet f (p.numPackets payload) payload i),p.after (p.numPackets payload)) := by
  rw [packetize,List.range_eq_range',loopSpec,← List.range_eq_range']
  simp

theorem packetizeCount (p : RtpPacketizer) (f : FrameFields) (payload : Bytes) :
    (p.packetize f payload).1.length = p.numPackets payload := by
  simp [packetizeSpec]

theorem numPacketsPositive (p : RtpPacketizer) (payload : Bytes) : 0 < p.numPackets payload := by
  have room := p.positive
  unfold numPackets
  split
  · decide
  · rename_i filled
    rw [List.isEmpty_iff_length_eq_zero] at filled
    exact Nat.div_pos (by omega) room

theorem fullPackets {p : RtpPacketizer} {payload : Bytes} {n : Nat} (positive : 0 < n)
    (length : payload.length = n*p.maxPayloadSize) : p.numPackets payload = n := by
  have room := p.positive
  have filled : ¬ payload.isEmpty := by
    rw [List.isEmpty_iff_length_eq_zero,length]
    exact (Nat.mul_pos positive room).ne'
  rw [numPackets,if_neg filled,length,Nat.add_sub_assoc room,Nat.mul_comm,Nat.mul_add_div room,
    Nat.div_eq_of_lt (by omega)]
  rfl

theorem chunkEq (p : RtpPacketizer) (payload : Bytes) (i : Nat) :
    p.chunk payload i = (payload.drop (i*p.maxPayloadSize)).take p.maxPayloadSize := by
  rw [chunk,List.take_eq_take_iff,List.length_drop]
  omega

theorem chunkLength (p : RtpPacketizer) (payload : Bytes) (i : Nat) :
    (p.chunk payload i).length = min p.maxPayloadSize (payload.length-i*p.maxPayloadSize) := by
  rw [chunkEq,List.length_take,List.length_drop]

theorem packetLength (p : RtpPacketizer) (f : FrameFields) (count : Nat) (payload : Bytes) (i : Nat) :
    (p.packet f count payload i).data.length =
      rtpBaseHeaderSize+(extension f i).length+(p.chunk payload i).length := by
  simp only [packet,List.length_append,beLength,List.length_cons,List.length_nil,rtpBaseHeaderSize,
    rtpStandardHeaderSize]

theorem chunksPrefix (p : RtpPacketizer) (payload : Bytes) (n : Nat) :
    (List.range n).flatMap (p.chunk payload) = payload.take (n*p.maxPayloadSize) := by
  induction n with
  | zero => simp
  | succ n ih =>
    rw [List.range_succ,List.flatMap_append,ih,List.flatMap_singleton,chunkEq,Nat.succ_mul,List.take_add]

theorem chunksCover (p : RtpPacketizer) (payload : Bytes) :
    (List.range (p.numPackets payload)).flatMap (p.chunk payload) = payload := by
  rw [chunksPrefix]
  apply List.take_of_length_le
  unfold numPackets
  split
  · rename_i empty
    simp [List.isEmpty_iff.mp empty]
  · have positive := p.positive
    have division := Nat.div_add_mod (payload.length+p.maxPayloadSize-1) p.maxPayloadSize
    have remainder := Nat.mod_lt (payload.length+p.maxPayloadSize-1) positive
    rw [Nat.mul_comm] at division
    omega

end RtpPacketizer

end Chromiacast
