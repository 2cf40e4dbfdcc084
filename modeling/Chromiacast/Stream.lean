import Chromiacast.Basis.Table
import Chromiacast.Crypto
import Chromiacast.Rtcp

/-! Per-stream sender state: the ring of unacknowledged frames, the two transmission
queues and the counters. `as usize` on an i64 adds 2^64 to a negative value; a
slot is that number modulo the ring size. u64 counters are naturals that saturate
or wrap where the source's do. -/
namespace Chromiacast
open Basis

structure PendingFrame where
  frameId : Int
  mediaTimestamp : Nat
  duration : Option Nat
  packets : List RtpPacket
  deriving DecidableEq, Repr

structure QueuedPacket where
  frameId : Int
  packet : RtpPacket
  deriving DecidableEq, Repr

structure OutboundPacket where
  packet : RtpPacket
  retransmission : Bool
  deriving DecidableEq, Repr

structure SenderReportRecord where
  compactNtp : UInt32
  sentAt : Nat
  deriving DecidableEq, Repr

def senderReportHistory : Nat := 16

/- Packets have room for every header: the session only ever asks for datagrams of
1452 or 1472 bytes. -/
structure StreamParameters where
  senderSyncSource : SyncSource
  receiverSyncSource : SyncSource
  rtpPayloadType : UInt8
  rtpTimebase : UInt32
  targetPlayoutDelay : Nat
  adaptivePlayoutDelay : Bool
  aesKey : Block
  aesIvMask : Block
  maxPacketSize : Nat
  room : rtpMaxHeaderSize < maxPacketSize
  deriving DecidableEq, Repr

theorem roomIpv4 : rtpMaxHeaderSize < 1472 := by decide

structure StreamState where
  crypto : FrameCrypto
  packetizer : RtpPacketizer
  senderSyncSource : SyncSource
  receiverSyncSource : SyncSource
  rtpTimebase : UInt32
  targetPlayoutDelay : Nat
  adaptivePlayoutDelay : Bool
  pendingPlayoutDelay : Option Nat
  nextFrameId : Int
  checkpoint : Int
  pending : Vector (Option PendingFrame) maxUnackedFrames
  lastMediaTimestamp : Option Nat
  lastReferenceTime : Option Nat
  lastRtpTimestamp : UInt32
  rtpPacketsSent : Nat
  rtpOctetsSent : Nat
  packetsRetransmitted : Nat
  framesAcked : Nat
  framesDroppedOrSkipped : Nat
  nackCount : Nat
  receiverPlayoutDelay : Option Nat
  currentRtt : Option Nat
  fractionLost : Option UInt8
  cumulativePacketsLost : Option Int32
  highestSequenceNumber : Option UInt32
  jitter : Option UInt32
  lastAckFeedbackCount : Option UInt8
  lastAckBitvectorBytes : Option Nat
  receiverReferenceTime : Option Nat
  senderReports : List SenderReportRecord
  sendQueue : List QueuedPacket
  retransmitQueue : List QueuedPacket
  deriving DecidableEq, Repr

def asUsize (x : Int) : Nat := if x < 0 then (x+2^64).toNat else x.toNat

def mediaToRtpTimestamp (mediaTimestamp : Nat) (timebase : UInt32) : UInt32 :=
  let wholeSeconds := UInt32.ofNat (mediaTimestamp/1000000000*timebase.toNat % 2^64)
  let fractional := mediaTimestamp%1000000000*timebase.toNat/1000000000
  wholeSeconds+UInt32.ofNat fractional

def durationFromNtpShort (value : UInt32) : Nat := value.toNat*1000000000/65536

namespace StreamState

def new (parameters : StreamParameters) (sequenceNumber : UInt16) : StreamState where
  crypto := ⟨parameters.aesKey,parameters.aesIvMask⟩
  packetizer := RtpPacketizer.new parameters.senderSyncSource parameters.rtpPayloadType
    parameters.maxPacketSize parameters.room sequenceNumber
  senderSyncSource := parameters.senderSyncSource
  receiverSyncSource := parameters.receiverSyncSource
  rtpTimebase := parameters.rtpTimebase
  targetPlayoutDelay := parameters.targetPlayoutDelay
  adaptivePlayoutDelay := parameters.adaptivePlayoutDelay
  pendingPlayoutDelay := none
  nextFrameId := FrameId.first
  checkpoint := FrameId.first-1
  pending := Vector.replicate maxUnackedFrames none
  lastMediaTimestamp := none
  lastReferenceTime := none
  lastRtpTimestamp := 0
  rtpPacketsSent := 0
  rtpOctetsSent := 0
  packetsRetransmitted := 0
  framesAcked := 0
  framesDroppedOrSkipped := 0
  nackCount := 0
  receiverPlayoutDelay := none
  currentRtt := none
  fractionLost := none
  cumulativePacketsLost := none
  highestSequenceNumber := none
  jitter := none
  lastAckFeedbackCount := none
  lastAckBitvectorBytes := none
  receiverReferenceTime := none
  senderReports := []
  sendQueue := []
  retransmitQueue := []

def slot (id : Int) : Fin maxUnackedFrames := ⟨asUsize id % maxUnackedFrames,Nat.mod_lt _ (by decide)⟩

def find (s : StreamState) (id : Int) : Option PendingFrame :=
  Table.find PendingFrame.frameId slot s.pending id

def inFlightCount (s : StreamState) : Nat := Table.occupied s.pending

def inFlightIdSpan (s : StreamState) : Nat := asUsize (s.nextFrameId-(s.checkpoint+1))

def rejectFrame (s : StreamState) (error : EnqueueError) : Except EnqueueError Int × StreamState :=
  (.error error,{s with framesDroppedOrSkipped := saturatingAdd s.framesDroppedOrSkipped 1})

def fields (s : StreamState) (frame : EncodedFrame) : FrameFields :=
  let frameId := s.nextFrameId
  let isKey := frame.dependency = .keyFrame
  ⟨frameId,isKey,if isKey then frameId else frameId-1,
    mediaToRtpTimestamp frame.mediaTimestamp s.rtpTimebase,s.pendingPlayoutDelay⟩

def packetized (aes : BlockCipher) (s : StreamState) (frame : EncodedFrame) : List RtpPacket × RtpPacketizer :=
  s.packetizer.packetize (s.fields frame) (s.crypto.encrypt aes s.nextFrameId frame.data)

def acceptFrame (aes : BlockCipher) (s : StreamState) (frame : EncodedFrame) : StreamState :=
  let frameId := s.nextFrameId
  let output := s.packetized aes frame
  {s with
    packetizer := output.2
    pendingPlayoutDelay := none
    sendQueue := s.sendQueue ++ output.1.map (QueuedPacket.mk frameId)
    pending := Table.store PendingFrame.frameId slot s.pending
      ⟨frameId,frame.mediaTimestamp,frame.duration,output.1⟩
    lastMediaTimestamp := some frame.mediaTimestamp
    lastReferenceTime := some frame.referenceTime
    lastRtpTimestamp := mediaToRtpTimestamp frame.mediaTimestamp s.rtpTimebase
    nextFrameId := FrameId.next frameId}

def enqueueFrame (aes : BlockCipher) (s : StreamState) (frame : EncodedFrame) :
    Except EnqueueError Int × StreamState :=
  if frame.data.isEmpty then s.rejectFrame .emptyFrame
  else if s.nextFrameId = FrameId.first ∧ frame.dependency ≠ .keyFrame then
    s.rejectFrame .firstFrameMustBeKeyFrame
  else if s.lastMediaTimestamp.any (fun last => frame.mediaTimestamp ≤ last) then
    s.rejectFrame .nonMonotonicMediaTimestamp
  else if s.inFlightIdSpan ≥ maxUnackedFrames then s.rejectFrame .reachedIdSpanLimit
  else (.ok s.nextFrameId,s.acceptFrame aes frame)

def setTargetPlayoutDelay (s : StreamState) (delay : Nat) : StreamState :=
  {s with targetPlayoutDelay := delay, pendingPlayoutDelay := some delay}

def cancelQueuedFrame (s : StreamState) (id : Int) : StreamState :=
  {s with
    sendQueue := s.sendQueue.filter (fun queued => queued.frameId ≠ id)
    retransmitQueue := s.retransmitQueue.filter (fun queued => queued.frameId ≠ id)}

def release (s : StreamState) (id : Int) : StreamState :=
  cancelQueuedFrame {s with pending := Table.erase slot s.pending id} id

/- The body that both acknowledgement loops run for each frame identifier: when the
slot holds that very frame, empty it, cancel its packets and report it. -/
def releaseAll : StreamState → List Int → StreamState × List Int
  | s,[] => (s,[])
  | s,id::rest =>
    if (s.find id).isSome then
      let tail := releaseAll (s.release id) rest
      (tail.1,id::tail.2)
    else releaseAll s rest

def idsThrough (first last : Int) : List Int := (List.range (last+1-first).toNat).map fun (k : Nat) => first+k

def acknowledgeUpTo (s : StreamState) (id : Int) : StreamState × List Int :=
  let start := s.checkpoint+1
  if id < start then (s,[]) else
    let released := s.releaseAll (idsThrough start id)
    ({released.1 with
      checkpoint := id
      framesAcked := saturatingAdd released.1.framesAcked released.2.length},released.2)

def bitvectorIds (checkpoint : Int) (data : Bytes) : List Int :=
  data.zipIdx.flatMap fun (byte,byteIndex) =>
    ((List.range 8).filter byte.toNat.testBit).map fun (bitIndex : Nat) =>
      let offset := 2+byteIndex*8+bitIndex
      checkpoint+offset

def acknowledgeBitvector (s : StreamState) (checkpoint : Int) (ack : Option AckBitvector) :
    StreamState × List Int :=
  let noted := {s with
    lastAckFeedbackCount := ack.map AckBitvector.feedbackCount
    lastAckBitvectorBytes := ack.map (fun ack => ack.data.length)}
  match ack with
  | none => (noted,[])
  | some ack =>
    let released := noted.releaseAll ((bitvectorIds checkpoint ack.data).filter (· < s.nextFrameId))
    ({released.1 with framesAcked := saturatingAdd released.1.framesAcked released.2.length},released.2)

def requested (pending : PendingFrame) (packetId : UInt16) : List RtpPacket :=
  if allPacketsLost = packetId then pending.packets else pending.packets[packetId.toNat]?.toList

def handleNack (s : StreamState) (id : Int) (packetId : UInt16) : StreamState × Nat :=
  let counted := {s with nackCount := saturatingAdd s.nackCount 1}
  match s.find id with
  | none => (counted,0)
  | some pending =>
    let packets := requested pending packetId
    ({counted with retransmitQueue := s.retransmitQueue ++ packets.map (QueuedPacket.mk id)},packets.length)

def nextPacket (s : StreamState) : Option OutboundPacket × StreamState :=
  match s.retransmitQueue with
  | queued::rest => (some ⟨queued.packet,true⟩,{s with retransmitQueue := rest})
  | [] =>
    match s.sendQueue with
    | queued::rest => (some ⟨queued.packet,false⟩,{s with sendQueue := rest})
    | [] => (none,s)

def recordPacketSent (s : StreamState) (packetSize : Nat) (retransmission : Bool) : StreamState :=
  if retransmission then {s with packetsRetransmitted := saturatingAdd s.packetsRetransmitted 1}
  else
    let payloadSize := packetSize-rtpStandardHeaderSize
    {s with
      rtpPacketsSent := (s.rtpPacketsSent+1) % 2^64
      rtpOctetsSent := (s.rtpOctetsSent+payloadSize) % 2^64}

def recordSenderReport (s : StreamState) (compactNtp : UInt32) (sentAt : Nat) : StreamState :=
  let kept := if s.senderReports.length = senderReportHistory then s.senderReports.tail else s.senderReports
  {s with senderReports := kept ++ [⟨compactNtp,sentAt⟩]}

def updateReceiverReport (s : StreamState) (report : ReceiverReport) (receivedAt : Nat) : StreamState :=
  let updated := {s with
    fractionLost := some report.fractionLost
    cumulativePacketsLost := some report.cumulativeLost
    highestSequenceNumber := some report.highestSequence
    jitter := some report.jitter}
  if report.lastSrTimestamp = 0 then updated else
    match s.senderReports.reverse.find? (fun record => record.compactNtp = report.lastSrTimestamp) with
    | none => updated
    | some record =>
      let receiverDelay := durationFromNtpShort report.delaySinceLastSr
      {updated with currentRtt :=
        if record.sentAt+receiverDelay ≤ receivedAt then some (receivedAt-record.sentAt-receiverDelay) else none}

def updatePlayoutDelay (s : StreamState) (delayMs : UInt16) : StreamState :=
  {s with receiverPlayoutDelay := some (millis delayMs.toNat)}

def updateReceiverReferenceTime (s : StreamState) (report : ReceiverReferenceTime) : StreamState :=
  {s with receiverReferenceTime := some report.ntpTimestamp.toSystemTime}

theorem nextPacketWrites (s : StreamState) :
    ∃ retransmit send, s.nextPacket.2 = {s with retransmitQueue := retransmit, sendQueue := send} := by
  unfold nextPacket
  split
  · exact ⟨_,_,rfl⟩
  · split <;> exact ⟨_,_,rfl⟩

theorem recordPacketSentWrites (s : StreamState) (packetSize : Nat) (retransmission : Bool) :
    ∃ retransmitted packets octets, s.recordPacketSent packetSize retransmission =
      {s with packetsRetransmitted := retransmitted, rtpPacketsSent := packets, rtpOctetsSent := octets} := by
  unfold recordPacketSent
  split <;> exact ⟨_,_,_,rfl⟩

theorem updateReceiverReportWrites (s : StreamState) (report : ReceiverReport) (receivedAt : Nat) :
    ∃ rtt, s.updateReceiverReport report receivedAt = {s with
      fractionLost := some report.fractionLost
      cumulativePacketsLost := some report.cumulativeLost
      highestSequenceNumber := some report.highestSequence
      jitter := some report.jitter
      currentRtt := rtt} := by
  unfold updateReceiverReport
  split
  · exact ⟨_,rfl⟩
  · split <;> exact ⟨_,rfl⟩

end StreamState
end Chromiacast
