import Chromiacast.EventLoop

/-! Offer, answer and the streams a session starts with. The random generator is a
parameter: one draw per offered stream and one sequence number per started stream.
Fields that only serialization reads are left out. -/
namespace Chromiacast
open Basis

inductive AudioCodec where
  | opus
  | aac
  deriving DecidableEq, Repr

inductive VideoCodec where
  | h264
  | vp8
  | hevc
  | vp9
  | av1
  deriving DecidableEq, Repr

def AudioCodec.rtpPayloadType : AudioCodec → UInt8
  | .opus => 96
  | .aac => 97

def VideoCodec.rtpPayloadType : VideoCodec → UInt8
  | .h264 => 101
  | .vp8 => 100
  | .hevc => 102
  | .vp9 => 103
  | .av1 => 104

structure Resolution where
  width : UInt32
  height : UInt32
  nonzero : width ≠ 0 ∧ height ≠ 0
  deriving DecidableEq, Repr

structure AudioStreamConfig where
  codec : AudioCodec
  bitRate : UInt32
  sampleRate : UInt32
  channels : UInt8
  targetDelay : Nat
  deriving DecidableEq, Repr

structure VideoStreamConfig where
  codec : VideoCodec
  maxBitRate : UInt32
  resolutions : List Resolution
  targetDelay : Nat
  deriving DecidableEq, Repr

structure StreamOffer where
  index : Nat
  streamType : StreamType
  rtpPayloadType : UInt8
  syncSource : SyncSource
  targetDelay : Nat
  aesKey : Block
  aesIvMask : Block
  rtpTimebase : UInt32
  deriving DecidableEq, Repr

structure Offer where
  streams : List StreamOffer
  deriving DecidableEq, Repr

structure OfferBuilder where
  audio : List AudioStreamConfig
  video : List VideoStreamConfig
  deriving DecidableEq, Repr

inductive OfferError where
  | noStreams
  | invalidAudioStream (index : Nat) (reason : String)
  | invalidVideoStream (index : Nat) (reason : String)
  deriving DecidableEq, Repr

structure Draw where
  syncSource : Fin 50000
  aesKey : Block
  aesIvMask : Block
  deriving DecidableEq, Repr

def generateAudio (draw : Fin 50000) : SyncSource := minimumAudioSyncSource+UInt32.ofNat draw
def generateVideo (draw : Fin 50000) : SyncSource := minimumVideoSyncSource+UInt32.ofNat draw

def rtpVideoTimebase : UInt32 := 90000

def validTargetDelay (delay : Nat) : Bool :=
  let milliseconds := delay/1000000
  1 ≤ milliseconds && milliseconds ≤ 2^32-1 && delay = millis milliseconds

def delayReason : String := "target delay must be a whole number of milliseconds between 1 and 4294967295"

def AudioStreamConfig.reason (audio : AudioStreamConfig) : Option String :=
  if audio.bitRate = 0 then some "bit rate must be nonzero"
  else if audio.sampleRate = 0 then some "sample rate must be nonzero"
  else if audio.channels = 0 then some "channel count must be nonzero"
  else if ¬ validTargetDelay audio.targetDelay then some delayReason
  else none

def VideoStreamConfig.reason (video : VideoStreamConfig) : Option String :=
  if video.maxBitRate = 0 then some "maximum bit rate must be nonzero"
  else if video.resolutions.isEmpty then some "at least one resolution is required"
  else if ¬ validTargetDelay video.targetDelay then some delayReason
  else none

namespace OfferBuilder

def audioOffer (draws : Nat → Draw) (audio : AudioStreamConfig) (index : Nat) : StreamOffer :=
  ⟨index,.audio,audio.codec.rtpPayloadType,generateAudio (draws index).syncSource,audio.targetDelay,
    (draws index).aesKey,(draws index).aesIvMask,audio.sampleRate⟩

def videoOffer (draws : Nat → Draw) (video : VideoStreamConfig) (index : Nat) : StreamOffer :=
  ⟨index,.video,video.codec.rtpPayloadType,generateVideo (draws index).syncSource,video.targetDelay,
    (draws index).aesKey,(draws index).aesIvMask,rtpVideoTimebase⟩

def firstReason {α : Type} (reason : α → Option String) (configs : List α) : Option (Nat × String) :=
  configs.zipIdx.findSome? fun (config,index) => (reason config).map (Prod.mk index)

def build (b : OfferBuilder) (draws : Nat → Draw) : Except OfferError Offer :=
  if b.audio.isEmpty ∧ b.video.isEmpty then .error .noStreams else
    match firstReason AudioStreamConfig.reason b.audio with
    | some (index,reason) => .error (.invalidAudioStream index reason)
    | none =>
      match firstReason VideoStreamConfig.reason b.video with
      | some (index,reason) => .error (.invalidVideoStream index reason)
      | none => .ok ⟨b.audio.zipIdx.map (fun (audio,index) => audioOffer draws audio index) ++
          (b.video.zipIdx b.audio.length).map (fun (video,index) => videoOffer draws video index)⟩

end OfferBuilder

namespace Offer

def stream (offer : Offer) (index : Nat) : Option StreamOffer := offer.streams.find? (fun s => s.index = index)

def streamSyncSource (offer : Offer) (index : Nat) : Option SyncSource := (offer.stream index).map StreamOffer.syncSource
def streamAesKey (offer : Offer) (index : Nat) : Option Block := (offer.stream index).map StreamOffer.aesKey
def streamAesIvMask (offer : Offer) (index : Nat) : Option Block := (offer.stream index).map StreamOffer.aesIvMask
def streamRtpTimebase (offer : Offer) (index : Nat) : Option UInt32 := (offer.stream index).map StreamOffer.rtpTimebase
def streamRtpPayloadType (offer : Offer) (index : Nat) : Option UInt8 :=
  (offer.stream index).map StreamOffer.rtpPayloadType
def streamTargetDelay (offer : Offer) (index : Nat) : Option Nat := (offer.stream index).map StreamOffer.targetDelay
def streamType (offer : Offer) (index : Nat) : Option StreamType := (offer.stream index).map StreamOffer.streamType

end Offer

structure Dimensions where
  width : UInt32
  height : UInt32
  deriving DecidableEq, Repr

/- Of the constraints and the display description `validate` reads only the dimensions. -/
structure Answer where
  udpPort : UInt16
  sendIndexes : List Nat
  syncSources : List SyncSource
  maxDimensions : Option Dimensions
  displayDimensions : Option Dimensions
  rtpExtensions : Option (List (List String))
  deriving DecidableEq, Repr

def Dimensions.hasZero (d : Dimensions) : Bool := d.width = 0 || d.height = 0

def Answer.validate (a : Answer) : Except String Unit :=
  if a.sendIndexes.isEmpty then .error "no streams accepted"
  else if a.sendIndexes.length ≠ a.syncSources.length then
    .error ("sendIndexes length (" ++ toString a.sendIndexes.length ++ ") != sync_sources length (" ++
      toString a.syncSources.length ++ ")")
  else if a.rtpExtensions.any (fun extensions => extensions.length ≠ a.sendIndexes.length) then
    .error ("rtpExtensions length (" ++ toString (a.rtpExtensions.elim 0 List.length) ++
      ") != sendIndexes length (" ++ toString a.sendIndexes.length ++ ")")
  else if a.udpPort = 0 then .error "udpPort is 0"
  else if a.syncSources.contains 0 then .error "receiver SSRC must not be zero"
  else if a.sendIndexes.dedup.length ≠ a.sendIndexes.length then .error "sendIndexes contains a duplicate stream"
  else if a.syncSources.dedup.length ≠ a.syncSources.length then .error "ssrcs contains a duplicate receiver SSRC"
  else if a.maxDimensions.any Dimensions.hasZero then .error "video maxDimensions contains a zero dimension"
  else if a.displayDimensions.any Dimensions.hasZero then .error "display dimensions contains a zero dimension"
  else .ok ()

inductive NegotiationError where
  | negotiationFailed (message : String)
  | noAcceptedStreams
  deriving DecidableEq, Repr

def okOr {α : Type} (value : Option α) (message : String) : Except NegotiationError α :=
  match value with
  | some value => .ok value
  | none => .error (.negotiationFailed message)

def adaptivePlayoutDelayExtension : String := "adaptive_playout_delay"

def Answer.adaptive (a : Answer) (acceptedIndex : Nat) : Bool :=
  (a.rtpExtensions.bind (fun streams => streams[acceptedIndex]?)).any
    (fun extensions => extensions.any (fun extension => extension = adaptivePlayoutDelayExtension))

def maxRtpPacketSizeIpv4 : Nat := 1472
def maxRtpPacketSizeIpv6 : Nat := 1452

def maxPacketSize (isIpv6 : Bool) : Nat := if isIpv6 then maxRtpPacketSizeIpv6 else maxRtpPacketSizeIpv4

theorem packetRoom (isIpv6 : Bool) : rtpMaxHeaderSize < maxPacketSize isIpv6 := by
  cases isIpv6 <;> decide

namespace SenderSession

/- The receiver SSRC of a position: `validate` has made the two lists equally long. -/
def receiverSyncSource (answer : Answer) (acceptedIndex : Nat) : SyncSource := answer.syncSources.getD acceptedIndex 0

def acceptStream (offer : Offer) (answer : Answer) (isIpv6 : Bool) (sequenceNumber : UInt16)
    (acceptedIndex offerIndex : Nat) : Except NegotiationError (StreamType × StreamState) := do
  let name := toString offerIndex
  let senderSyncSource ← okOr (offer.streamSyncSource offerIndex) ("send_index " ++ name ++ " not found in offer")
  let aesKey ← okOr (offer.streamAesKey offerIndex) ("stream " ++ name ++ " omitted its AES key")
  let aesIvMask ← okOr (offer.streamAesIvMask offerIndex) ("stream " ++ name ++ " omitted its AES IV mask")
  let rtpTimebase ← okOr (offer.streamRtpTimebase offerIndex) ("stream " ++ name ++ " omitted its RTP timebase")
  let rtpPayloadType ← okOr (offer.streamRtpPayloadType offerIndex)
    ("stream " ++ name ++ " omitted its RTP payload type")
  let targetPlayoutDelay ← okOr (offer.streamTargetDelay offerIndex) ("stream " ++ name ++ " omitted its target delay")
  let streamType ← okOr (offer.streamType offerIndex) ("send_index " ++ name ++ " not found in offer")
  if receiverSyncSource answer acceptedIndex = senderSyncSource then
    .error (.negotiationFailed ("stream " ++ name ++ " uses the same sender and receiver SSRC"))
  else
    .ok (streamType,StreamState.new ⟨senderSyncSource,receiverSyncSource answer acceptedIndex,rtpPayloadType,
      rtpTimebase,targetPlayoutDelay,answer.adaptive acceptedIndex,aesKey,aesIvMask,maxPacketSize isIpv6,
      packetRoom isIpv6⟩ sequenceNumber)

def duplicateMessage : StreamType → String
  | .audio => "receiver accepted more than one audio stream"
  | .video => "receiver accepted more than one video stream"

def acceptStreams (offer : Offer) (answer : Answer) (isIpv6 : Bool) (sequenceNumbers : Nat → UInt16) :
    Nat → List Nat → Session → Except NegotiationError Session
  | _,[],session => .ok session
  | acceptedIndex,offerIndex::rest,session => do
    let (type,state) ← acceptStream offer answer isIpv6 (sequenceNumbers acceptedIndex) acceptedIndex offerIndex
    if (session.get type).isSome then .error (.negotiationFailed (duplicateMessage type))
    else acceptStreams offer answer isIpv6 sequenceNumbers (acceptedIndex+1) rest (session.put type state)

def startAddress (offer : Offer) (answer : Answer) (isIpv6 : Bool) (sequenceNumbers : Nat → UInt16) :
    Except NegotiationError Session :=
  match answer.validate with
  | .error message => .error (.negotiationFailed message)
  | .ok () => do
    let session ← acceptStreams offer answer isIpv6 sequenceNumbers 0 answer.sendIndexes ⟨none,none⟩
    if session.audio.isNone ∧ session.video.isNone then .error .noAcceptedStreams else .ok session

end SenderSession
end Chromiacast
