import Chromiacast.Basis.Outcome
import Chromiacast.Ntp
import Chromiacast.Rtp

/-! RTCP feedback as the sender reads it. Every access to the input is checked,
so an index outside the datagram shows as `panic`. Loops carry their results as
the source's output vectors do; a loop that runs out of fuel also shows as `panic`. -/
namespace Chromiacast
open Basis

def rtcpSenderReport : UInt8 := 200
def rtcpReceiverReport : UInt8 := 201
def rtcpPayloadSpecific : UInt8 := 206
def rtcpExtendedReports : UInt8 := 207
def rtcpSubtypePictureLoss : UInt8 := 1
def rtcpSubtypeFeedback : UInt8 := 15
def castFeedbackMagic : UInt32 := 0x43415354
def castAckMagic : UInt32 := 0x43535432

structure ReceiverReport where
  receiverSyncSource : SyncSource
  syncSource : SyncSource
  fractionLost : UInt8
  cumulativeLost : Int32
  highestSequence : UInt32
  jitter : UInt32
  lastSrTimestamp : UInt32
  delaySinceLastSr : UInt32
  deriving DecidableEq, Repr

structure PacketNack where
  frameId : Int
  packetId : UInt16
  deriving DecidableEq, Repr

structure AckBitvector where
  feedbackCount : UInt8
  data : Bytes
  deriving DecidableEq, Repr

structure CastFeedback where
  receiverSyncSource : SyncSource
  senderSyncSource : SyncSource
  checkpointFrameId : UInt8
  playoutDelayMs : UInt16
  nacks : List PacketNack
  ackBitvector : Option AckBitvector
  deriving DecidableEq, Repr

structure PictureLossIndication where
  receiverSyncSource : SyncSource
  senderSyncSource : SyncSource
  deriving DecidableEq, Repr

structure ReceiverReferenceTime where
  receiverSyncSource : SyncSource
  ntpTimestamp : NtpTimestamp
  deriving DecidableEq, Repr

structure CompoundRtcpPacket where
  receiverReports : List ReceiverReport
  castFeedbacks : List CastFeedback
  pictureLoss : List PictureLossIndication
  receiverReferenceTimes : List ReceiverReferenceTime
  deriving DecidableEq, Repr

def CompoundRtcpPacket.empty : CompoundRtcpPacket := ⟨[],[],[],[]⟩

inductive ParseError where
  | truncated
  | badVersion
  | badMagic
  | invalidValue
  deriving DecidableEq, Repr

abbrev Parsed := Outcome ParseError

def u16FromBeBytes (a b : UInt8) : UInt16 := UInt16.ofNat (readBE [a,b])
def u32FromBeBytes (a b c d : UInt8) : UInt32 := UInt32.ofNat (readBE [a,b,c,d])

def readU32 (data : Bytes) (offset : Nat) : Parsed UInt32 := do
  let a ← index data offset
  let b ← index data (offset+1)
  let c ← index data (offset+2)
  let d ← index data (offset+3)
  pure (u32FromBeBytes a b c d)

def i24FromBytes (a b c : UInt8) : Int32 :=
  let value := (a.toUInt32.toInt32 <<< 16) ||| (b.toUInt32.toInt32 <<< 8) ||| c.toUInt32.toInt32
  if value &&& 0x800000 ≠ 0 then value ||| ~~~0xffffff else value

def readI24 (data : Bytes) (offset : Nat) : Parsed Int32 := do
  let a ← index data offset
  let b ← index data (offset+1)
  let c ← index data (offset+2)
  pure (i24FromBytes a b c)

structure RtcpHeader where
  count : UInt8
  packetType : UInt8
  length : UInt16
  deriving DecidableEq, Repr

def RtcpHeader.parse (data : Bytes) : Parsed RtcpHeader := do
  if data.length < 4 then .err .truncated else
    let b0 ← index data 0
    let version := (b0 >>> 6) &&& 0x03
    if version ≠ 2 then .err .badVersion else
      let b1 ← index data 1
      let b2 ← index data 2
      let b3 ← index data 3
      pure ⟨b0 &&& 0x1F,b1,u16FromBeBytes b2 b3⟩

def reportBlocks (payload : Bytes) (receiverSyncSource : SyncSource) :
    Nat → Nat → List ReceiverReport → Parsed (List ReceiverReport)
  | 0,_,out => .ok out
  | n+1,offset,out =>
    if offset+24 > payload.length then .err .truncated else do
      let syncSource ← readU32 payload offset
      let fractionLost ← index payload (offset+4)
      let cumulativeLost ← readI24 payload (offset+5)
      let highestSequence ← readU32 payload (offset+8)
      let jitter ← readU32 payload (offset+12)
      let lastSrTimestamp ← readU32 payload (offset+16)
      let delaySinceLastSr ← readU32 payload (offset+20)
      reportBlocks payload receiverSyncSource n (offset+24) (out ++ [⟨receiverSyncSource,syncSource,
        fractionLost,cumulativeLost,highestSequence,jitter,lastSrTimestamp,delaySinceLastSr⟩])

def parseReceiverReport (payload : Bytes) (reportCount : UInt8) (out : List ReceiverReport) :
    Parsed (List ReceiverReport) := do
  if payload.length < 4 then .err .truncated else
    let receiverSyncSource ← readU32 payload 0
    reportBlocks payload receiverSyncSource reportCount.toNat 4 out

def lossBits (frameId : Int) (lostPacketId : UInt16) (bitvector : UInt8) :
    List Nat → List PacketNack → Parsed (List PacketNack)
  | [],nacks => .ok nacks
  | bit::rest,nacks =>
    if bitvector.toNat.testBit bit then
      if lostPacketId.toNat+(1+bit) > 0xFFFF then .err .invalidValue
      else lossBits frameId lostPacketId bitvector rest
        (nacks ++ [⟨frameId,UInt16.ofNat (lostPacketId.toNat+(1+bit))⟩])
    else lossBits frameId lostPacketId bitvector rest nacks

def lossField (frameId : Int) (lostPacketId : UInt16) (bitvector : UInt8) (nacks : List PacketNack) :
    Parsed (List PacketNack) :=
  let named := nacks ++ [⟨frameId,lostPacketId⟩]
  if lostPacketId = allPacketsLost then .ok named
  else lossBits frameId lostPacketId bitvector (List.range 8) named

def lossFields (payload : Bytes) (checkpointFrameId : UInt8) :
    Nat → Nat → List PacketNack → Parsed (List PacketNack)
  | 0,_,nacks => .ok nacks
  | n+1,offset,nacks =>
    if offset+4 > payload.length then .err .truncated else do
      let withinFrameId ← index payload offset
      let p0 ← index payload (offset+1)
      let p1 ← index payload (offset+2)
      let bitvector ← index payload (offset+3)
      let frameId := FrameId.expand withinFrameId checkpointFrameId.toNat
      let nacks ← lossField frameId (u16FromBeBytes p0 p1) bitvector nacks
      lossFields payload checkpointFrameId n (offset+4) nacks

def parseAckBitvector (payload : Bytes) (offset : Nat) : Parsed (Option AckBitvector) := do
  if offset+4 ≤ payload.length then
    let ackMagic ← readU32 payload offset
    if ackMagic = castAckMagic ∧ offset+6 ≤ payload.length then
      let feedbackCount ← index payload (offset+4)
      let numOctets ← index payload (offset+5)
      if offset+6+numOctets.toNat ≤ payload.length then
        let data ← slice payload (offset+6) (offset+6+numOctets.toNat)
        pure (some ⟨feedbackCount,data⟩)
      else .err .truncated
    else pure none
  else pure none

def parseCastFeedback (payload : Bytes) (out : CompoundRtcpPacket) : Parsed CompoundRtcpPacket := do
  if payload.length < 16 then .err .truncated else
    let receiverSyncSource ← readU32 payload 0
    let senderSyncSource ← readU32 payload 4
    let magic ← readU32 payload 8
    if magic ≠ castFeedbackMagic then .err .badMagic else
      let checkpointFrameId ← index payload 12
      let lossFieldCount ← index payload 13
      let d0 ← index payload 14
      let d1 ← index payload 15
      let nacks ← lossFields payload checkpointFrameId lossFieldCount.toNat 16 []
      let ackBitvector ← parseAckBitvector payload (16+4*lossFieldCount.toNat)
      pure {out with castFeedbacks := out.castFeedbacks ++ [⟨receiverSyncSource,senderSyncSource,
        checkpointFrameId,u16FromBeBytes d0 d1,nacks,ackBitvector⟩]}

def parsePayloadSpecific (payload : Bytes) (subtype : UInt8) (out : CompoundRtcpPacket) :
    Parsed CompoundRtcpPacket := do
  if subtype = rtcpSubtypePictureLoss then
    if payload.length < 8 then .err .truncated else
      let receiverSyncSource ← readU32 payload 0
      let senderSyncSource ← readU32 payload 4
      pure {out with pictureLoss := out.pictureLoss ++ [⟨receiverSyncSource,senderSyncSource⟩]}
  else if subtype = rtcpSubtypeFeedback then parseCastFeedback payload out
  else pure out

def referenceTimeBlock (payload : Bytes) (receiverSyncSource : SyncSource) (blockType : UInt8)
    (offset blockDataLen : Nat) (out : List ReceiverReferenceTime) : Parsed (List ReceiverReferenceTime) :=
  if blockType = 4 ∧ blockDataLen ≥ 8 ∧ offset+8 ≤ payload.length then do
    let ntpSeconds ← readU32 payload offset
    let ntpFraction ← readU32 payload (offset+4)
    pure (out ++ [⟨receiverSyncSource,⟨(ntpSeconds.toUInt64 <<< 32) ||| ntpFraction.toUInt64⟩⟩])
  else pure out

def extendedBlocks (payload : Bytes) (receiverSyncSource : SyncSource) :
    Nat → Nat → List ReceiverReferenceTime → Parsed (List ReceiverReferenceTime)
  | 0,_,_ => .panic
  | fuel+1,offset,out =>
    if offset+4 ≤ payload.length then do
      let blockType ← index payload offset
      let l0 ← index payload (offset+2)
      let l1 ← index payload (offset+3)
      let blockDataLen := (u16FromBeBytes l0 l1).toNat*4
      if offset+4+blockDataLen > payload.length then .err .truncated else
        let out ← referenceTimeBlock payload receiverSyncSource blockType (offset+4) blockDataLen out
        extendedBlocks payload receiverSyncSource fuel (offset+4+blockDataLen) out
    else .ok out

def parseExtendedReports (payload : Bytes) (out : List ReceiverReferenceTime) :
    Parsed (List ReceiverReferenceTime) := do
  if payload.length < 4 then .err .truncated else
    let receiverSyncSource ← readU32 payload 0
    extendedBlocks payload receiverSyncSource (payload.length+1) 4 out

def parsePacket (header : RtcpHeader) (payload : Bytes) (result : CompoundRtcpPacket) :
    Parsed CompoundRtcpPacket := do
  if header.packetType = rtcpReceiverReport then
    let reports ← parseReceiverReport payload header.count result.receiverReports
    pure {result with receiverReports := reports}
  else if header.packetType = rtcpPayloadSpecific then parsePayloadSpecific payload header.count result
  else if header.packetType = rtcpExtendedReports then
    let times ← parseExtendedReports payload result.receiverReferenceTimes
    pure {result with receiverReferenceTimes := times}
  else pure result

def compoundLoop (data : Bytes) : Nat → Nat → CompoundRtcpPacket → Parsed CompoundRtcpPacket
  | 0,_,_ => .panic
  | fuel+1,offset,result =>
    if offset+4 ≤ data.length then do
      let rest ← slice data offset data.length
      let header ← RtcpHeader.parse rest
      let packetLen := 4+header.length.toNat*4
      if offset+packetLen > data.length then .err .truncated else
        let payload ← slice data (offset+4) (offset+packetLen)
        let result ← parsePacket header payload result
        compoundLoop data fuel (offset+packetLen) result
    else if offset ≠ data.length then .err .truncated
    else .ok result

def parseCompound (data : Bytes) : Parsed CompoundRtcpPacket :=
  compoundLoop data (data.length+1) 0 .empty

end Chromiacast
