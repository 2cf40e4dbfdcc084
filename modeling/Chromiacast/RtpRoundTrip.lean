import Chromiacast.StreamLedger

/-! A receiver's reading of the Cast RTP layout and the round trip through it: the
headers of a frame's datagrams give back what the packetizer was told, and the
payloads in packet order decrypt to the frame. No two frames of a run are encrypted
with the same counter block. -/
namespace Chromiacast
open Basis

structure CastRtp where
  marker : Bool
  payloadType : UInt8
  sequenceNumber : UInt16
  rtpTimestamp : UInt32
  syncSource : SyncSource
  isKeyFrame : Bool
  frameId : UInt8
  packetId : UInt16
  maxPacketId : UInt16
  referencedFrameId : UInt8
  payload : Bytes
  deriving DecidableEq, Repr

def readByte : Bytes → Option (UInt8 × Bytes)
  | [] => none
  | b::rest => some (b,rest)

/- An extension is a type in the upper 6 bits and a size in the lower 10 of two bytes,
then that many bytes. -/
def skipExtensions : Nat → Bytes → Option Bytes
  | 0,raw => some raw
  | count+1,raw => do
    let (header,rest) ← readField 2 raw
    let (_,rest) ← readField (header &&& 0x3FF) rest
    skipExtensions count rest

def parseCastRtp (data : Bytes) : Option CastRtp := do
  let (first,rest) ← readByte data
  if first ≠ rtpRequiredFirstByte then none else
  let (markerAndPayloadType,rest) ← readByte rest
  let (sequenceNumber,rest) ← readField 2 rest
  let (rtpTimestamp,rest) ← readField 4 rest
  let (syncSource,rest) ← readField 4 rest
  let (castByte,rest) ← readByte rest
  let (frameId,rest) ← readByte rest
  let (packetId,rest) ← readField 2 rest
  let (maxPacketId,rest) ← readField 2 rest
  let (referencedFrameId,rest) ← readByte rest
  let payload ← skipExtensions (castByte &&& 0x3F).toNat rest
  some ⟨markerAndPayloadType &&& 0x80 ≠ 0,markerAndPayloadType &&& 0x7F,UInt16.ofNat sequenceNumber,
    UInt32.ofNat rtpTimestamp,UInt32.ofNat syncSource,castByte &&& 0x80 ≠ 0,frameId,UInt16.ofNat packetId,
    UInt16.ofNat maxPacketId,referencedFrameId,payload⟩

theorem layoutParsed (markerAndPayloadType castByte frameId referencedFrameId : UInt8)
    (sequenceNumber packetId maxPacketId : UInt16) (rtpTimestamp syncSource : UInt32) {rest payload : Bytes}
    (skipped : skipExtensions (castByte &&& 0x3F).toNat rest = some payload) :
    parseCastRtp (rtpRequiredFirstByte::markerAndPayloadType::(be 2 sequenceNumber.toNat ++
      (be 4 rtpTimestamp.toNat ++ (be 4 syncSource.toNat ++ (castByte::frameId::(be 2 packetId.toNat ++
        (be 2 maxPacketId.toNat ++ (referencedFrameId::rest)))))))) =
      some ⟨markerAndPayloadType &&& 0x80 ≠ 0,markerAndPayloadType &&& 0x7F,sequenceNumber,rtpTimestamp,syncSource,
        castByte &&& 0x80 ≠ 0,frameId,packetId,maxPacketId,referencedFrameId,payload⟩ := by
  -- a field is read before the rest of the packet is looked at
  have byte (x : UInt8) (rest : Bytes) (next : UInt8 × Bytes → Option CastRtp) :
      (readByte (x::rest) >>= next) = next (x,rest) := rfl
  have short (x : UInt16) (rest : Bytes) (next : Nat × Bytes → Option CastRtp) :
      (readField 2 (be 2 x.toNat ++ rest) >>= next) = next (x.toNat,rest) := by
    rw [readFieldEncoded x.toNat_lt rest]
    rfl
  have long (x : UInt32) (rest : Bytes) (next : Nat × Bytes → Option CastRtp) :
      (readField 4 (be 4 x.toNat ++ rest) >>= next) = next (x.toNat,rest) := by
    rw [readFieldEncoded x.toNat_lt rest]
    rfl
  simp only [parseCastRtp,↓byte,↓short,↓long,↓skipped,ne_eq,not_true_eq_false,if_false,Option.bind_eq_bind,
    Option.bind_some,UInt16.ofNat_toNat,UInt32.ofNat_toNat]

namespace RtpPacketizer

theorem markerByte (last : Bool) (payloadType : UInt8) :
    let byte : UInt8 := (if last then 0x80 else 0x00) ||| (payloadType &&& 0x7F)
    byte &&& 0x7F = payloadType &&& 0x7F ∧ decide (byte &&& 0x80 ≠ 0) = last := by
  have all : ∀ (last : Bool) (x : Fin 256),
      let byte : UInt8 := (if last then 0x80 else 0x00) ||| (UInt8.ofFin x &&& 0x7F)
      byte &&& 0x7F = UInt8.ofFin x &&& 0x7F ∧ decide (byte &&& 0x80 ≠ 0) = last := by
    decide +kernel
  exact all last payloadType.toFin

theorem castByte (extended key : Bool) :
    let byte : UInt8 := ((if extended then 1 else 0) &&& 0x3F) ||| (if key then 0x80 else 0x00) ||| 0x40
    (byte &&& 0x3F).toNat = (if extended then 1 else 0) ∧ decide (byte &&& 0x80 ≠ 0) = key := by
  cases extended <;> cases key <;> decide

theorem payloadTypeFits {payloadType : UInt8} (small : payloadType < 128) : payloadType &&& 0x7F = payloadType := by
  have all : ∀ x : Fin 256, UInt8.ofFin x < 128 → UInt8.ofFin x &&& 0x7F = UInt8.ofFin x := by
    decide +kernel
  exact all payloadType.toFin small

theorem extensionSkipped (f : FrameFields) (i : Nat) (payload : Bytes) :
    skipExtensions (if i = 0 ∧ f.newPlayoutDelay.isSome then 1 else 0) (extension f i ++ payload) =
      some payload := by
  cases i with
  | succ i => simp [extension,skipExtensions]
  | zero =>
    cases given : f.newPlayoutDelay with
    | none => simp [extension,given,skipExtensions]
    | some delay =>
      have size : (1 <<< 10 ||| 2) &&& 0x3FF = 2 := by decide
      have wide : 1 <<< 10 ||| 2 < 256^2 := by decide
      simp only [extension,given,Option.isSome_some,and_self,if_true,skipExtensions,List.append_assoc]
      rw [readFieldEncoded wide]
      simp only [bind,Option.bind_some,size]
      rw [readFieldEncoded (UInt16.ofNat (delay/1000000)).toNat_lt]
      rfl

def reading (p : RtpPacketizer) (f : FrameFields) (count : Nat) (payload : Bytes) (i : Nat) : CastRtp :=
  ⟨i = count-1,p.payloadType &&& 0x7F,p.sequenceNumber,f.rtpTimestamp,p.syncSource,f.isKeyFrame,
    FrameId.truncate f.frameId,UInt16.ofNat i,UInt16.ofNat (count-1),FrameId.truncate f.referencedFrameId,
    p.chunk payload i⟩

theorem packetParsed (p : RtpPacketizer) (f : FrameFields) (count : Nat) (payload : Bytes) (i : Nat) :
    parseCastRtp (p.packet f count payload i).data = some (p.reading f count payload i) := by
  obtain ⟨low,high⟩ := markerByte (decide (i = count-1)) p.payloadType
  obtain ⟨extensions,key⟩ := castByte (decide (i = 0 ∧ f.newPlayoutDelay.isSome)) f.isKeyFrame
  simp only [decide_eq_true_eq] at low high extensions key
  have skipped := extensionSkipped f i (p.chunk payload i)
  rw [← extensions] at skipped
  simp only [packet,List.append_assoc,List.cons_append,List.nil_append]
  rw [layoutParsed _ _ _ _ _ _ _ _ _ skipped,low,high,key,reading]

theorem packetFits (p : RtpPacketizer) (f : FrameFields) (count : Nat) (payload : Bytes) (i : Nat) :
    (p.packet f count payload i).data.length ≤ rtpMaxHeaderSize+p.maxPayloadSize := by
  have short : (extension f i).length ≤ adaptiveLatencyExtSize := by
    unfold extension
    split <;> simp [adaptiveLatencyExtSize]
  rw [packetLength,chunkLength,rtpMaxHeaderSize]
  omega

def readings (p : RtpPacketizer) (f : FrameFields) (payload : Bytes) : List CastRtp :=
  (List.range (p.numPackets payload)).map (fun i => (p.after i).reading f (p.numPackets payload) payload i)

theorem packetizeParsed (p : RtpPacketizer) (f : FrameFields) (payload : Bytes) :
    (p.packetize f payload).1.map (fun packet => parseCastRtp packet.data) = (p.readings f payload).map some := by
  simp [packetizeSpec,readings,packetParsed]

theorem readingsLength (p : RtpPacketizer) (f : FrameFields) (payload : Bytes) :
    (p.readings f payload).length = p.numPackets payload := by
  simp [readings]

theorem readingAt (p : RtpPacketizer) (f : FrameFields) (payload : Bytes) {i : Nat} {header : CastRtp}
    (read : (p.readings f payload)[i]? = some header) :
    i < p.numPackets payload ∧ header = (p.after i).reading f (p.numPackets payload) payload i := by
  rw [readings,List.getElem?_map] at read
  obtain ⟨j,inside,same⟩ := Option.map_eq_some_iff.mp read
  obtain ⟨bound,value⟩ := List.getElem?_eq_some_iff.mp inside
  rw [List.getElem_range] at value
  subst value
  exact ⟨by simpa using bound,same.symm⟩

theorem readingsPayload (p : RtpPacketizer) (f : FrameFields) (payload : Bytes) :
    (p.readings f payload).flatMap CastRtp.payload = payload := by
  calc (p.readings f payload).flatMap CastRtp.payload
      = (List.range (p.numPackets payload)).flatMap (p.chunk payload) := by
        simp only [readings,List.flatMap_map]
        rfl
    _ = payload := p.chunksCover payload

theorem numPacketsLe {p : RtpPacketizer} {payload : Bytes} {limit : Nat} (positive : 0 < limit) :
    p.numPackets payload ≤ limit ↔ payload.length ≤ limit*p.maxPayloadSize := by
  have room := p.positive
  unfold numPackets
  split
  · rename_i empty
    simp [List.isEmpty_iff.mp empty,Nat.one_le_iff_ne_zero,positive.ne']
  · rw [Nat.div_le_iff_le_mul_add_pred room,Nat.mul_comm]
    omega

end RtpPacketizer

theorem indexWord {n : Nat} (small : n < 65536) : (UInt16.ofNat n).toNat = n := by
  rw [UInt16.toNat_ofNat',Nat.mod_eq_of_lt small]

namespace StreamState

theorem frameRoundTrip (aes : BlockCipher) (s t : StreamState) (frame : EncodedFrame) (id : Int)
    (maxPacketSize : Nat) (room : 23 < maxPacketSize) (size : s.packetizer.maxPayloadSize = maxPacketSize-23)
    (accepted : s.enqueueFrame aes frame = (.ok id,t))
    (short : frame.data.length ≤ 65535*(maxPacketSize-23)) :
    ∃ (packets : List RtpPacket) (headers : List CastRtp),
      t.sendQueue = s.sendQueue ++ packets.map (QueuedPacket.mk id) ∧
      packets.map (fun packet => parseCastRtp packet.data) = headers.map some ∧
      (∀ (i : Nat) (header : CastRtp), headers[i]? = some header →
        header.payloadType = s.packetizer.payloadType &&& 0x7F ∧
        (s.packetizer.payloadType < 128 → header.payloadType = s.packetizer.payloadType) ∧
        header.syncSource = s.packetizer.syncSource ∧
        header.rtpTimestamp = mediaToRtpTimestamp frame.mediaTimestamp s.rtpTimebase ∧
        (header.isKeyFrame ↔ frame.dependency = .keyFrame) ∧
        (header.frameId.toNat : Int) = id % 256 ∧
        (header.referencedFrameId.toNat : Int) = (if frame.dependency = .keyFrame then id else id-1) % 256 ∧
        header.packetId.toNat = i ∧ header.maxPacketId.toNat = headers.length-1 ∧
        (header.marker ↔ i = headers.length-1)) ∧
      (∀ packet ∈ packets, packet.data.length ≤ maxPacketSize) ∧
      applyKeystream aes s.crypto.key (s.crypto.buildNonce id) (headers.flatMap CastRtp.payload) = frame.data := by
  obtain ⟨rfl,rfl⟩ := enqueueAccepted accepted
  let cipher := s.crypto.encrypt aes s.nextFrameId frame.data
  have few : s.packetizer.numPackets cipher ≤ 65535 := by
    refine (RtpPacketizer.numPacketsLe (by decide)).mpr ?_
    rw [encryptLength,size]
    exact short
  refine ⟨(s.packetized aes frame).1,s.packetizer.readings (s.fields frame) cipher,rfl,
    RtpPacketizer.packetizeParsed .., ?_,?_,?_⟩
  · intro i header read
    obtain ⟨inside,rfl⟩ := RtpPacketizer.readingAt _ _ _ read
    rw [RtpPacketizer.readingsLength]
    refine ⟨rfl,RtpPacketizer.payloadTypeFits,rfl,rfl,?_,FrameId.truncateToNat _,?_,indexWord (by omega),
      indexWord (by omega),?_⟩
    · simp [RtpPacketizer.reading,fields]
    · have truncated := FrameId.truncateToNat (s.fields frame).referencedFrameId
      simpa [fields,RtpPacketizer.reading] using truncated
    · simp [RtpPacketizer.reading]
  · intro packet member
    rw [packetized,RtpPacketizer.packetizeSpec] at member
    obtain ⟨i,_,rfl⟩ := List.mem_map.mp member
    have bound := (s.packetizer.after i).packetFits (s.fields frame)
      (s.packetizer.numPackets cipher) cipher i
    have same : (s.packetizer.after i).maxPayloadSize = maxPacketSize-23 := size
    have header : rtpMaxHeaderSize = 23 := rfl
    exact bound.trans (by omega)
  · rw [RtpPacketizer.readingsPayload]
    exact applyTwice ..

def smallParameters : StreamParameters := {exampleParameters with maxPacketSize := 27,room := by decide}

def delayedStream : StreamState := (new smallParameters 0).setTargetPlayoutDelay (millis 250)

def tenBytes : EncodedFrame := ⟨.keyFrame,[1,2,3,4,5,6,7,8,9,10],0,0,none⟩

theorem roundTripThreePackets :
    ∃ (packets : List RtpPacket) (headers : List CastRtp),
      (delayedStream.acceptFrame (fun _ block => block) tenBytes).sendQueue = packets.map (QueuedPacket.mk 0) ∧
      packets.map (fun packet => packet.data.length) = [27,23,21] ∧
      packets.map (fun packet => parseCastRtp packet.data) = headers.map some ∧
      headers.map (fun header => (header.packetId,header.maxPacketId)) = [(0,2),(1,2),(2,2)] ∧
      applyKeystream (fun _ block => block) delayedStream.crypto.key (delayedStream.crypto.buildNonce 0)
        (headers.flatMap CastRtp.payload) = [1,2,3,4,5,6,7,8,9,10] := by
  obtain ⟨packets,headers,queue,parsed,_,_,data⟩ := frameRoundTrip (fun _ block => block) delayedStream _ tenBytes 0 27
    (by decide) rfl rfl (by decide)
  have unsent : delayedStream.sendQueue = [] := rfl
  rw [unsent,List.nil_append] at queue
  let sent := delayedStream.acceptFrame (fun _ block => block) tenBytes
  have listed : packets = sent.sendQueue.map QueuedPacket.packet := by simp [sent,queue,Function.comp_def]
  have read : headers = sent.sendQueue.filterMap fun queued => parseCastRtp queued.packet.data := by
    simpa [listed,List.filterMap_map,Function.comp_def] using (congrArg (List.filterMap id) parsed).symm
  refine ⟨packets,headers,queue,?_,parsed,?_,data⟩
  · rw [listed]
    decide +kernel
  · rw [read]
    decide +kernel

theorem acceptedQueued {aes : BlockCipher} {s t : StreamState} {frame : EncodedFrame} {id : Int}
    (accepted : s.enqueueFrame aes frame = (.ok id,t)) :
    ∃ (packets : List RtpPacket) (headers : List CastRtp),
      t.sendQueue = s.sendQueue ++ packets.map (QueuedPacket.mk id) ∧
      packets.map (fun packet => parseCastRtp packet.data) = headers.map some ∧
      headers.flatMap CastRtp.payload = s.crypto.encrypt aes id frame.data := by
  obtain ⟨rfl,rfl⟩ := enqueueAccepted accepted
  exact ⟨_,_,rfl,RtpPacketizer.packetizeParsed ..,RtpPacketizer.readingsPayload ..⟩

theorem acceptedListed {aes : BlockCipher} {parameters : StreamParameters} {sequenceNumber : UInt16}
    {before : List Operation} {frame : EncodedFrame} (after : List Operation) {id : Int} {t : StreamState}
    (accepted : (run aes parameters sequenceNumber before).1.enqueueFrame aes frame = (.ok id,t)) :
    acceptedFrames (run aes parameters sequenceNumber before).2 ++ [(id,frame)] <+:
      acceptedFrames (run aes parameters sequenceNumber (before ++ .enqueueFrame frame::after)).2 := by
  unfold run at accepted ⊢
  rw [Machine.runAppend,Machine.runCons]
  simp only [step,accepted,acceptedFrames,List.flatMap_append,List.flatMap_cons,Output.accepts]
  rw [← List.append_assoc]
  exact List.prefix_append _ _

/- The first conjunct says under which key and mask every state of a run encrypts, the second that each
frame a call accepts has a place of its own in the list and leaves in datagrams whose payloads are its
ciphertext, the third that the listed blocks are all the ciphertext takes from the cipher. -/
theorem keystreamNotReused (aes : BlockCipher) (parameters : StreamParameters) (sequenceNumber : UInt16)
    (operations : List Operation)
    (few : (acceptedFrames (run aes parameters sequenceNumber operations).2).length < 2^32)
    (short : ∀ entry ∈ acceptedFrames (run aes parameters sequenceNumber operations).2,
      entry.2.data.length ≤ 2^36) :
    let reached := run aes parameters sequenceNumber operations
    let crypto : FrameCrypto := ⟨parameters.aesKey,parameters.aesIvMask⟩
    reached.1.crypto = crypto ∧
    (∀ before frame after id t, operations = before ++ .enqueueFrame frame::after →
      (run aes parameters sequenceNumber before).1.enqueueFrame aes frame = (.ok id,t) →
      acceptedFrames (run aes parameters sequenceNumber before).2 ++ [(id,frame)] <+: acceptedFrames reached.2 ∧
      ∃ (packets : List RtpPacket) (headers : List CastRtp),
        t.sendQueue = (run aes parameters sequenceNumber before).1.sendQueue ++ packets.map (QueuedPacket.mk id) ∧
        packets.map (fun packet => parseCastRtp packet.data) = headers.map some ∧
        headers.flatMap CastRtp.payload = crypto.encrypt aes id frame.data) ∧
    (∀ entry ∈ acceptedFrames reached.2, ∀ other : BlockCipher,
      (∀ block ∈ crypto.counterBlocks entry.1 entry.2.data.length, aes crypto.key block = other crypto.key block) →
      crypto.encrypt aes entry.1 entry.2.data = crypto.encrypt other entry.1 entry.2.data) ∧
    (acceptedFrames reached.2).Pairwise (fun a b =>
      (crypto.counterBlocks a.1 a.2.data.length).Disjoint (crypto.counterBlocks b.1 b.2.data.length)) ∧
    ∀ entry ∈ acceptedFrames reached.2, (crypto.counterBlocks entry.1 entry.2.data.length).Nodup := by
  intro reached crypto
  have l : Ledger reached.1 reached.2 := runLedger aes parameters sequenceNumber operations
  have bounds (entry : Int × EncodedFrame) (member : entry ∈ acceptedFrames reached.2) :
      0 ≤ entry.1 ∧ entry.1 < 2^32 := by
    have below := l.acceptedBelow member
    have few : (acceptedFrames reached.2).length < 2^32 := few
    omega
  refine ⟨runCrypto aes parameters sequenceNumber operations,?_,fun _ _ _ agree => encryptReadsCounterBlocks agree,
    ?_,?_⟩
  · rintro before frame after id t rfl accepted
    have queued := acceptedQueued accepted
    rw [runCrypto] at queued
    exact ⟨acceptedListed after accepted,queued⟩
  · refine l.acceptedUnique.imp_of_mem ?_
    intro a b left right different
    obtain ⟨la,ha⟩ := bounds a left
    obtain ⟨lb,hb⟩ := bounds b right
    exact counterBlocksDisjoint crypto la ha lb hb (short a left) (short b right) different
  · intro entry member
    obtain ⟨low,high⟩ := bounds entry member
    exact counterBlocksNodup crypto low high (short entry member)

def twoFrames : List Operation :=
  [.enqueueFrame ⟨.keyFrame,[1,2,3],0,0,none⟩,.enqueueFrame ⟨.delta,[4,5],1,0,none⟩]

theorem keystreamOfTwoFrames :
    let crypto : FrameCrypto := ⟨exampleParameters.aesKey,exampleParameters.aesIvMask⟩
    (crypto.counterBlocks 0 3).Disjoint (crypto.counterBlocks 1 2) ∧
    ∃ (packets : List RtpPacket) (headers : List CastRtp),
      packets.map (fun packet => parseCastRtp packet.data) = headers.map some ∧
      headers.flatMap CastRtp.payload = crypto.encrypt (fun _ block => block) 1 [4,5] := by
  have frames : acceptedFrames (run (fun _ block => block) exampleParameters 0 twoFrames).2 =
      [(0,⟨.keyFrame,[1,2,3],0,0,none⟩),(1,⟨.delta,[4,5],1,0,none⟩)] := rfl
  obtain ⟨_,queued,_,disjoint,_⟩ := keystreamNotReused (fun _ block => block) exampleParameters 0 twoFrames
    (by rw [frames]; decide) (by rw [frames]; decide)
  obtain ⟨_,packets,headers,_,parsed,payload⟩ := queued (twoFrames.take 1) ⟨.delta,[4,5],1,0,none⟩ [] 1 _ rfl rfl
  rw [frames] at disjoint
  exact ⟨(List.pairwise_cons.mp disjoint).1 (1,⟨.delta,[4,5],1,0,none⟩) (List.mem_singleton.mpr rfl),
    packets,headers,parsed,payload⟩

end StreamState
end Chromiacast
