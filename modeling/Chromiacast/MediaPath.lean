import Chromiacast.OfferDocument
import Chromiacast.ProtocolSafety
import Chromiacast.RtpRoundTrip

/-! From the frame handed to the sender to the frame a receiver opens. The receiver has only the
OFFER and datagrams: it takes a stream's key and mask from the one and selects, orders, joins and
decrypts the others by what their headers say. -/
namespace Chromiacast
open Basis

def pieces (buffer : List QueuedPacket) (id : Int) : List CastRtp :=
  (buffer.filterMap fun d => parseCastRtp d.packet.data).filter fun header => header.frameId = FrameId.truncate id

/- As many parts as the first header announces, each by its packet identifier. -/
def reassemble (parts : List CastRtp) : Option Bytes := do
  let first ← parts.head?
  let payloads ← (List.range (first.maxPacketId.toNat+1)).mapM fun i =>
    (parts.find? fun part => part.packetId.toNat = i).map CastRtp.payload
  some payloads.flatten

def openFrame (aes : BlockCipher) (crypto : FrameCrypto) (buffer : List QueuedPacket) (id : Int) : Option Bytes :=
  (reassemble (pieces buffer id)).map (applyKeystream aes crypto.key (crypto.buildNonce id))

namespace RtpPacketizer
variable {p : RtpPacketizer} {f : FrameFields} {payload : Bytes}

theorem memReadings {header : CastRtp} : header ∈ p.readings f payload ↔
    ∃ i < p.numPackets payload, header = (p.after i).reading f (p.numPackets payload) payload i := by
  simp [readings,eq_comm]

theorem reassembled (few : p.numPackets payload ≤ 65536) {parts : List CastRtp}
    (same : ∀ header, header ∈ parts ↔ header ∈ p.readings f payload) : reassemble parts = some payload := by
  have positive := p.numPacketsPositive payload
  obtain ⟨first,rest,all⟩ : ∃ first rest, parts = first::rest := by
    have zero : (p.after 0).reading f (p.numPackets payload) payload 0 ∈ parts :=
      (same _).mpr (memReadings.mpr ⟨0,positive,rfl⟩)
    exact List.exists_cons_of_ne_nil (List.ne_nil_of_mem zero)
  have announced : first.maxPacketId.toNat+1 = p.numPackets payload := by
    obtain ⟨i,_,rfl⟩ := memReadings.mp ((same first).mp (by rw [all]; exact List.mem_cons_self))
    have value : (UInt16.ofNat (p.numPackets payload-1)).toNat = p.numPackets payload-1 := indexWord (by omega)
    simp only [reading,value]
    omega
  have found (i : Nat) (member : i ∈ List.range (p.numPackets payload)) :
      (parts.find? fun part => part.packetId.toNat = i).map CastRtp.payload = some (p.chunk payload i) := by
    have inside := List.mem_range.mp member
    have here : (p.after i).reading f (p.numPackets payload) payload i ∈ parts :=
      (same _).mpr (memReadings.mpr ⟨i,inside,rfl⟩)
    cases search : parts.find? (fun part => part.packetId.toNat = i) with
    | none =>
      have none' := List.find?_eq_none.mp search _ here
      simp [reading,indexWord (show i < 65536 by omega)] at none'
    | some part =>
      obtain ⟨j,bound,rfl⟩ := memReadings.mp ((same part).mp (List.mem_of_find?_eq_some search))
      have position := List.find?_some search
      simp only [reading,indexWord (show j < 65536 by omega),decide_eq_true_eq] at position
      subst position
      rfl
  have head : parts.head? = some first := by rw [all]; rfl
  simp only [reassemble,head,Option.bind_eq_bind,Option.bind_some,announced,mapMAll found]
  rw [← List.flatMap_def]
  exact congrArg some (p.chunksCover payload)

theorem packetRead {packet : RtpPacket} (member : packet ∈ (p.packetize f payload).1) :
    ∃ header ∈ p.readings f payload, parseCastRtp packet.data = some header := by
  have inside := List.mem_map_of_mem (f := fun packet : RtpPacket => parseCastRtp packet.data) member
  rw [packetizeParsed] at inside
  obtain ⟨header,read,same⟩ := List.mem_map.mp inside
  exact ⟨header,read,same.symm⟩

theorem readingSent {header : CastRtp} (member : header ∈ p.readings f payload) :
    ∃ packet ∈ (p.packetize f payload).1, parseCastRtp packet.data = some header := by
  have inside := List.mem_map_of_mem (f := some) member
  rw [← packetizeParsed] at inside
  exact List.mem_map.mp inside

theorem readingFrame {header : CastRtp} (member : header ∈ p.readings f payload) :
    header.frameId = FrameId.truncate f.frameId := by
  obtain ⟨i,_,rfl⟩ := memReadings.mp member
  rfl

end RtpPacketizer

theorem FrameId.truncateNear {a b : Int} (same : truncate a = truncate b) (near : |a-b| < 256) : a = b := by
  have left := truncateToNat a
  have right := truncateToNat b
  rw [same] at left
  have bounds := abs_lt.mp near
  omega

namespace StreamState

structure Profile where
  crypto : FrameCrypto
  payloadType : UInt8
  syncSource : SyncSource
  maxPayloadSize : Nat
  rtpTimebase : UInt32

def Outgoing.profile (o : Outgoing) : Profile :=
  ⟨o.crypto,o.packetizer.payloadType,o.packetizer.syncSource,o.packetizer.maxPayloadSize,o.rtpTimebase⟩

def profile (s : StreamState) : Profile := s.outgoing.profile

theorem stepProfile (aes : BlockCipher) {s : StreamState} (w : Window s) (operation : Operation) :
    (step aes s operation).1.profile = s.profile := by
  cases operation with
  | castFeedback feedback => exact congrArg Outgoing.profile (processed w feedback).outgoing
  | enqueueFrame frame =>
    rcases enqueueCases aes s frame with ⟨_,_,result⟩ | ⟨error,result⟩
    · simp only [step,result,profile,acceptFrame,packetized,RtpPacketizer.packetizeSpec]
      rfl
    · simp only [step,result,rejectFrame]
      rfl
  | nextPacket =>
    obtain ⟨_,_,written⟩ := s.nextPacketWrites
    simp only [step,written]
    rfl
  | recordPacketSent packetSize retransmission =>
    obtain ⟨_,_,_,written⟩ := s.recordPacketSentWrites packetSize retransmission
    simp only [step,written]
    rfl
  | receiverReport report receivedAt =>
    obtain ⟨_,written⟩ := s.updateReceiverReportWrites report receivedAt
    simp only [step,written]
    rfl
  | setTargetPlayoutDelay delay => rfl
  | recordSenderReport compactNtp sentAt => rfl
  | receiverReferenceTime report => rfl

def Makes (aes : BlockCipher) (profile : Profile) (id : Int) (frame : EncodedFrame) (packets : List RtpPacket) : Prop :=
  ∃ s : StreamState, s.nextFrameId = id ∧ s.profile = profile ∧ packets = (s.packetized aes frame).1

end StreamState

namespace World

structure Made (aes : BlockCipher) (profile : StreamState.Profile) (w : World) : Prop where
  stream : w.sender.profile = profile
  unique : (w.frames.map Prod.fst).Nodup
  made : ∀ entry ∈ w.frames, ∃ frame, StreamState.Makes aes profile entry.1 frame entry.2

theorem Made.same {aes : BlockCipher} {profile : StreamState.Profile} {w v : World} (made : Made aes profile w)
    (stream : v.sender.profile = profile) (frames : v.frames = w.frames) : Made aes profile v :=
  ⟨stream,by rw [frames]; exact made.unique,by rw [frames]; exact made.made⟩

theorem Made.operate {aes : BlockCipher} {profile : StreamState.Profile} {w : World} (made : Made aes profile w)
    (safe : Safe w) (type : StreamType) (operation : StreamState.Operation) :
    Made aes profile (w.step aes type (.operate operation)) := by
  simp only [step]
  split
  · exact made
  · have effect := StreamState.stepEffect aes w.sender operation
    have stream := (StreamState.stepProfile aes safe.kept.window operation).trans made.stream
    generalize StreamState.step aes w.sender operation = result at effect stream
    obtain ⟨t,output⟩ := result
    simp only at effect stream ⊢
    cases effect with
    | accepted frame nonempty room =>
      refine ⟨stream,?_,?_⟩
      · rw [List.map_append]
        refine List.nodup_append.mpr ⟨made.unique,List.nodup_singleton _,?_⟩
        intro id member other single
        obtain ⟨entry,inside,rfl⟩ := List.mem_map.mp member
        rw [List.mem_singleton.mp single]
        exact ne_of_lt (safe.kept.known entry inside)
      · intro entry member
        rcases List.mem_append.mp member with before | now
        · exact made.made entry before
        · cases List.mem_singleton.mp now
          exact ⟨frame,w.sender,rfl,made.stream,rfl⟩
    | processed feedback => exact made.same stream (List.append_nil _)
    | retransmitted queued rest head => exact made.same stream (List.append_nil _)
    | sent queued rest head => exact made.same stream (List.append_nil _)
    | quiet t output same silent =>
      rw [StreamState.silentFrames silent]
      exact made.same stream (List.append_nil _)

theorem Made.step {aes : BlockCipher} {profile : StreamState.Profile} {w : World} (made : Made aes profile w)
    (safe : Safe w) (type : StreamType) (action : Action) : Made aes profile (w.step aes type action) := by
  cases action with
  | operate operation => exact made.operate safe type operation
  | deliver m receivedAt =>
    simp only [World.step]
    split
    · rw [StreamState.receiveEncoded]
      have stream := StreamState.stepProfile aes safe.kept.window (.castFeedback (m.feedback w.sender.sources))
      exact made.same (stream.trans made.stream) rfl
    · exact made
  | receive d =>
    simp only [World.step]
    split
    · exact made.same made.stream rfl
    · exact made
  | advance =>
    simp only [World.step]
    split
    · exact made.same made.stream rfl
    · exact made
  | emit report =>
    simp only [World.step]
    split
    · exact made.same made.stream rfl
    · exact made

theorem afterMade (aes : BlockCipher) (type : StreamType) (parameters : StreamParameters) (sequenceNumber : UInt16)
    (actions : List Action) : Made aes (StreamState.new parameters sequenceNumber).profile
      (after aes type parameters sequenceNumber actions) := by
  induction actions using List.reverseRecOn with
  | nil => exact ⟨rfl,List.nodup_nil,by simp [after,start]⟩
  | append_singleton rest action ih =>
    rw [after,List.foldl_append]
    exact ih.step (afterSafe aes type parameters sequenceNumber rest) type action

theorem stepFramesGrow (aes : BlockCipher) (type : StreamType) (w : World) (action : Action) :
    ∀ entry ∈ w.frames, entry ∈ (w.step aes type action).frames := by
  intro entry member
  cases action with
  | operate operation =>
    simp only [step]
    split
    · exact member
    · exact List.mem_append_left _ member
  | _ =>
    simp only [step]
    split <;> exact member

theorem framesGrow (aes : BlockCipher) (type : StreamType) (w : World) (actions : List Action) :
    ∀ entry ∈ w.frames, entry ∈ (actions.foldl (step aes type) w).frames := by
  induction actions generalizing w with
  | nil => exact fun _ member => member
  | cons action rest ih => exact fun entry member => ih _ entry (stepFramesGrow aes type w action entry member)

theorem acceptedListed (aes : BlockCipher) (type : StreamType) (w : World) {frame : EncodedFrame} {id : Int}
    {t : StreamState} (accepted : w.sender.enqueueFrame aes frame = (.ok id,t)) (later : List Action) :
    id = w.sender.nextFrameId ∧ (id,(w.sender.packetized aes frame).1) ∈
      ((.operate (.enqueueFrame frame)::later).foldl (step aes type) w).frames := by
  refine ⟨(StreamState.enqueueAccepted accepted).1,framesGrow aes type _ later _ ?_⟩
  simp [step,StreamState.Operation.isCastFeedback,StreamState.step,accepted,StreamState.Output.frames]

theorem Made.opens {aes : BlockCipher} {profile : StreamState.Profile} {w : World} (made : Made aes profile w)
    (safe : Safe w) {id : Int} {frame : EncodedFrame} {packets : List RtpPacket} (entry : (id,packets) ∈ w.frames)
    (makes : StreamState.Makes aes profile id frame packets)
    (short : frame.data.length ≤ 65536*profile.maxPayloadSize) {buffer : List QueuedPacket}
    (held : ∀ d ∈ buffer, d ∈ w.received) (near : ∀ d ∈ buffer, |d.frameId-id| < 256)
    (all : ∀ packet ∈ packets, ⟨id,packet⟩ ∈ buffer) :
    openFrame aes profile.crypto buffer id = some frame.data ∧ ∀ header ∈ pieces buffer id,
      header.payloadType = profile.payloadType &&& 0x7F ∧ header.syncSource = profile.syncSource ∧
      header.rtpTimestamp = mediaToRtpTimestamp frame.mediaTimestamp profile.rtpTimebase := by
  obtain ⟨s,rfl,rfl,rfl⟩ := makes
  have few : s.packetizer.numPackets (s.crypto.encrypt aes s.nextFrameId frame.data) ≤ 65536 := by
    refine (RtpPacketizer.numPacketsLe (by decide)).mpr ?_
    rw [encryptLength]
    exact short
  have same (header : CastRtp) : header ∈ pieces buffer s.nextFrameId ↔
      header ∈ s.packetizer.readings (s.fields frame) (s.crypto.encrypt aes s.nextFrameId frame.data) := by
    simp only [pieces,List.mem_filter,List.mem_filterMap,decide_eq_true_eq]
    constructor
    · rintro ⟨⟨d,inside,read⟩,named⟩
      obtain ⟨others,listed,member⟩ := safe.sent d (safe.received d (held d inside))
      obtain ⟨other,t,next,_,rfl⟩ := made.made _ listed
      obtain ⟨header',reading,read'⟩ := RtpPacketizer.packetRead member
      cases Option.some.inj (read.symm.trans read')
      -- the byte decides the frame because the buffer holds no frame 256 away
      have frameId : d.frameId = s.nextFrameId := by
        refine FrameId.truncateNear ?_ (near d inside)
        rw [← named,RtpPacketizer.readingFrame reading]
        exact congrArg FrameId.truncate next.symm
      have own : (t.packetized aes other).1 = (s.packetized aes frame).1 :=
        congrArg Prod.snd (List.inj_on_of_nodup_map made.unique listed entry frameId)
      rw [own] at member
      obtain ⟨header'',reading'',read''⟩ := RtpPacketizer.packetRead member
      cases Option.some.inj (read.symm.trans read'')
      exact reading''
    · intro reading
      obtain ⟨packet,member,read⟩ := RtpPacketizer.readingSent reading
      exact ⟨⟨_,all packet member,read⟩,RtpPacketizer.readingFrame reading⟩
  constructor
  · rw [openFrame,RtpPacketizer.reassembled few same,Option.map_some]
    exact congrArg some (applyTwice ..)
  · intro header member
    obtain ⟨i,_,rfl⟩ := RtpPacketizer.memReadings.mp ((same header).mp member)
    exact ⟨rfl,rfl,rfl⟩

theorem sentNext (aes : BlockCipher) (type : StreamType) (w : World) :
    (w.step aes type (.operate .nextPacket)).sent.map QueuedPacket.packet = w.sent.map QueuedPacket.packet ++
      (w.sender.nextPacket.1.map OutboundPacket.packet).toList := by
  rw [StreamState.nextPacketHead]
  cases head : w.sender.queueHead <;> simp [step,StreamState.Operation.isCastFeedback,head]

theorem opensAccepted {aes : BlockCipher} {type : StreamType} {parameters : StreamParameters} {sequenceNumber : UInt16}
    {before : List Action} {frame : EncodedFrame} {id : Int} {t : StreamState} {buffer : List QueuedPacket}
    (later : List Action)
    (accepted : (after aes type parameters sequenceNumber before).sender.enqueueFrame aes frame = (.ok id,t))
    (short : frame.data.length ≤ 65536*(parameters.maxPacketSize-rtpMaxHeaderSize))
    (held : ∀ datagram ∈ buffer, datagram ∈ (after aes type parameters sequenceNumber
      (before ++ .operate (.enqueueFrame frame)::later)).received)
    (near : ∀ datagram ∈ buffer, |datagram.frameId-id| < 256)
    (all : ∀ packets, (id,packets) ∈ (after aes type parameters sequenceNumber
      (before ++ .operate (.enqueueFrame frame)::later)).frames → ∀ packet ∈ packets, ⟨id,packet⟩ ∈ buffer) :
    openFrame aes ⟨parameters.aesKey,parameters.aesIvMask⟩ buffer id = some frame.data ∧
    ∀ header ∈ pieces buffer id, header.payloadType = parameters.rtpPayloadType &&& 0x7F ∧
      header.syncSource = parameters.senderSyncSource ∧
      header.rtpTimestamp = mediaToRtpTimestamp frame.mediaTimestamp parameters.rtpTimebase := by
  have made := afterMade aes type parameters sequenceNumber (before ++ .operate (.enqueueFrame frame)::later)
  have earlier := afterMade aes type parameters sequenceNumber before
  obtain ⟨next,listed⟩ := acceptedListed aes type _ accepted later
  have entry : (id,((after aes type parameters sequenceNumber before).sender.packetized aes frame).1) ∈
      (after aes type parameters sequenceNumber (before ++ .operate (.enqueueFrame frame)::later)).frames := by
    simpa only [after,List.foldl_append] using listed
  exact made.opens (afterSafe ..) entry ⟨_,next.symm,earlier.stream,rfl⟩ short held near (all _ entry)

/- The first and the third frame of three; the second is lost. -/
example : openFrame (fun _ block => block) ⟨Vector.replicate 16 7,Vector.replicate 16 9⟩
    (after (fun _ block => block) .audio StreamState.exampleParameters 0 exampleActions).received 2 = some [3] := by
  decide +kernel

end World

def SenderSession.parameters (offered : StreamOffer) (answer : Answer) (isIpv6 : Bool) (k : Nat) : StreamParameters :=
  ⟨offered.syncSource,receiverSyncSource answer k,offered.rtpPayloadType,offered.rtpTimebase,
    offered.targetDelay,answer.adaptive k,offered.aesKey,offered.aesIvMask,maxPacketSize isIpv6,packetRoom isIpv6⟩

/- The whole path: an OFFER is built and answered, a session is started from the two, and a frame
handed to one of its streams is opened by a receiver that has read the OFFER, however the network
has treated the datagrams and the reports. -/
theorem framesOpenByOffer (b : DocumentBuilder) (draws : Nat → Draw) (d : OfferDocument) (answer : Answer)
    (isIpv6 : Bool) (sequenceNumbers : Nat → UInt16) (session : Session) (type : StreamType) (state : StreamState)
    (built : b.build draws = .ok d) (few : b.audio.length+b.video.length < 2^64)
    (started : SenderSession.startAddress d.offer answer isIpv6 sequenceNumbers = .ok session)
    (present : session.get type = some state) :
    ∃ (k index : Nat) (stream : ReceivedStream) (parameters : StreamParameters),
      answer.sendIndexes[k]? = some index ∧ readOffered d.toValue index = some stream ∧ stream.type = type ∧
      state = StreamState.new parameters (sequenceNumbers k) ∧
      (∀ (aes : BlockCipher) (before : List Action),
        let w := World.after aes type parameters (sequenceNumbers k) before
        (w.step aes type (.operate .nextPacket)).sent.map QueuedPacket.packet = w.sent.map QueuedPacket.packet ++
          (w.sender.nextPacket.1.map OutboundPacket.packet).toList) ∧
      ∀ (aes : BlockCipher) (before later : List Action) (frame : EncodedFrame) (id : Int) (t : StreamState)
        (buffer : List QueuedPacket),
        (World.after aes type parameters (sequenceNumbers k) before).sender.enqueueFrame aes frame = (.ok id,t) →
        frame.data.length ≤ 65536*(maxPacketSize isIpv6-rtpMaxHeaderSize) →
        let w := World.after aes type parameters (sequenceNumbers k) (before ++ .operate (.enqueueFrame frame)::later)
        (∀ datagram ∈ buffer, datagram ∈ w.received) → (∀ datagram ∈ buffer, |datagram.frameId-id| < 256) →
        (∀ packets, (id,packets) ∈ w.frames → ∀ packet ∈ packets, ⟨id,packet⟩ ∈ buffer) →
        openFrame aes ⟨stream.aesKey,stream.aesIvMask⟩ buffer id = some frame.data ∧
        ∀ header ∈ pieces buffer id,
          header.payloadType = stream.payloadType &&& 0x7F ∧ header.syncSource = stream.syncSource ∧
          header.rtpTimestamp = mediaToRtpTimestamp frame.mediaTimestamp stream.timebase := by
  obtain ⟨_,offer⟩ := DocumentBuilder.built built
  obtain ⟨_,origins,_⟩ := SenderSession.startAddressOk started
  obtain ⟨k,offered,origin⟩ := origins type state present
  obtain ⟨index,position,found⟩ := origin.position
  have small (s : OfferedStream) (member : s ∈ d.streams) : s.index < 2^64 :=
    (DocumentBuilder.indexSmall offer member).trans few
  refine ⟨k,index,offered.received,SenderSession.parameters offered answer isIpv6 k,position,
    d.readOffered small found,origin.type,origin.state,fun aes before => World.sentNext aes type _,?_⟩
  intro aes before later frame id t buffer accepted short w held near all
  obtain ⟨opened,headers⟩ := World.opensAccepted later accepted short held near all
  -- rewritten first, or the comparison unfolds the clock arithmetic
  have timebase : (SenderSession.parameters offered answer isIpv6 k).rtpTimebase = offered.received.timebase := rfl
  rw [timebase] at headers
  exact ⟨opened,headers⟩

def offeredVideo : StreamParameters :=
  let draw := SenderSession.exampleDraws 1
  SenderSession.parameters ⟨1,.video,VideoCodec.h264.rtpPayloadType,generateVideo draw.syncSource,millis 400,
    draw.aesKey,draw.aesIvMask,rtpVideoTimebase⟩ SenderSession.exampleAnswer false 1

def secondFrame : EncodedFrame := ⟨.delta,[3,4],1,0,none⟩

/- Two frames are sent; their datagrams arrive in reverse order and twice. -/
def exampleBefore : List Action := [.operate (.enqueueFrame ⟨.keyFrame,[1,2],0,0,none⟩),.operate .nextPacket]

def exampleLater : List Action :=
  let sends := exampleBefore ++ [.operate (.enqueueFrame secondFrame),.operate .nextPacket]
  let sent := (World.after (fun _ block => block) .video offeredVideo 0 sends).sent
  .operate .nextPacket::(sent.reverse ++ sent).map Action.receive

def exampleWorld : World :=
  World.after (fun _ block => block) .video offeredVideo 0
    (exampleBefore ++ .operate (.enqueueFrame secondFrame)::exampleLater)

theorem exampleOpens : ∃ d session state index stream,
    exampleDocument.build SenderSession.exampleDraws = .ok d ∧
    SenderSession.startAddress d.offer SenderSession.exampleAnswer false (fun _ => 0) = .ok session ∧
    session.get .video = some state ∧ index ∈ SenderSession.exampleAnswer.sendIndexes ∧
    readOffered d.toValue index = some stream ∧ exampleWorld.received.length = 4 ∧
    openFrame (fun _ block => block) ⟨stream.aesKey,stream.aesIvMask⟩ exampleWorld.received 1 = some [3,4] := by
  obtain ⟨k,index,stream,parameters,position,read,_,state,_,opens⟩ := framesOpenByOffer exampleDocument
    SenderSession.exampleDraws _ SenderSession.exampleAnswer false (fun _ => 0) _ .video _ rfl (by decide) rfl rfl
  have same (actions : List Action) : World.after (fun _ block => block) .video parameters 0 actions =
      World.after (fun _ block => block) .video offeredVideo 0 actions := by
    have start : StreamState.new offeredVideo 0 = StreamState.new parameters 0 := state
    rw [World.after,World.after,World.start,World.start,start]
  have opened := opens (fun _ block => block) exampleBefore exampleLater secondFrame 1
  simp only [same] at opened
  have accepted : ((World.after (fun _ block => block) .video offeredVideo 0 exampleBefore).sender.enqueueFrame
      (fun _ block => block) secondFrame).1 = .ok 1 := by decide +kernel
  have whole : ∀ entry ∈ exampleWorld.frames, entry.1 = 1 →
      ∀ packet ∈ entry.2, ⟨1,packet⟩ ∈ exampleWorld.received := by decide +kernel
  have frame := opened _ exampleWorld.received (Prod.ext accepted rfl) (by decide) (fun _ arrived => arrived)
    (by decide +kernel) fun packets listed => whole _ listed rfl
  exact ⟨_,_,_,index,stream,rfl,rfl,rfl,List.mem_of_getElem? position,read,by decide +kernel,frame.1⟩

end Chromiacast
