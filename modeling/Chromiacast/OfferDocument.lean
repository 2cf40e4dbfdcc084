import Chromiacast.Basis.Numerals
import Chromiacast.Json
import Chromiacast.OfferedStreams

/-! The OFFER as it is written. The builder here keeps the fields that only serialization reads;
without them it is the builder of the negotiation. -/
namespace Chromiacast
open Basis

inductive CastMode where
  | mirroring
  | remoting
  deriving DecidableEq, Repr

def CastMode.name : CastMode → String
  | mirroring => "mirroring"
  | remoting => "remoting"

def AudioCodec.codecName : AudioCodec → String
  | .opus => "opus"
  | .aac => "aac"

def VideoCodec.codecName : VideoCodec → String
  | .h264 => "h264"
  | .vp8 => "vp8"
  | .hevc => "hevc"
  | .vp9 => "vp9"
  | .av1 => "av1"

@[ext] structure Framerate where
  numerator : UInt32
  denominator : UInt32
  nonzero : numerator ≠ 0 ∧ denominator ≠ 0
  deriving Repr

instance : DecidableEq Framerate := fun _ _ => decidable_of_iff _ Framerate.ext_iff.symm

def decimal (n : Nat) : String := String.ofList (Nat.toDigits 10 n)

def parseU32 (text : List Char) : Option UInt32 := (fromStrRadix 32 10 text).map UInt32.ofNat

namespace Framerate

def new (numerator denominator : UInt32) : Option Framerate :=
  if nonzero : numerator ≠ 0 ∧ denominator ≠ 0 then some ⟨numerator,denominator,nonzero⟩ else none

def display (f : Framerate) : String := decimal f.numerator.toNat ++ "/" ++ decimal f.denominator.toNat

end Framerate

structure VideoExtra where
  maxFrameRate : Framerate
  maxBitRate : UInt32
  resolutions : List Resolution
  deriving DecidableEq, Repr

structure OfferedStream extends StreamOffer where
  channels : UInt8
  codecName : String
  rtpExtensions : List String
  audioExtra : Option UInt32
  videoExtra : Option VideoExtra
  deriving DecidableEq, Repr

structure OfferDocument where
  castMode : CastMode
  streams : List OfferedStream
  deriving DecidableEq, Repr

structure VideoStream extends VideoStreamConfig where
  maxFrameRate : Framerate
  deriving DecidableEq, Repr

structure DocumentBuilder where
  castMode : CastMode
  audio : List AudioStreamConfig
  video : List VideoStream
  deriving DecidableEq, Repr

def DocumentBuilder.builder (b : DocumentBuilder) : OfferBuilder :=
  ⟨b.audio,b.video.map VideoStream.toVideoStreamConfig⟩

def OfferDocument.offer (d : OfferDocument) : Offer := ⟨d.streams.map OfferedStream.toStreamOffer⟩

def OfferDocument.hasVideo (d : OfferDocument) : Bool := d.streams.any fun s => s.streamType = .video

namespace DocumentBuilder

def audioStream (draws : Nat → Draw) (audio : AudioStreamConfig) (index : Nat) : OfferedStream where
  toStreamOffer := OfferBuilder.audioOffer draws audio index
  channels := audio.channels
  codecName := audio.codec.codecName
  rtpExtensions := [adaptivePlayoutDelayExtension]
  audioExtra := some audio.bitRate
  videoExtra := none

def videoStream (draws : Nat → Draw) (video : VideoStream) (index : Nat) : OfferedStream where
  toStreamOffer := OfferBuilder.videoOffer draws video.toVideoStreamConfig index
  channels := 1
  codecName := video.codec.codecName
  rtpExtensions := [adaptivePlayoutDelayExtension]
  audioExtra := none
  videoExtra := some ⟨video.maxFrameRate,video.maxBitRate,video.resolutions⟩

def streams (b : DocumentBuilder) (draws : Nat → Draw) : List OfferedStream :=
  b.audio.zipIdx.map (fun (audio,index) => audioStream draws audio index) ++
    (b.video.zipIdx b.audio.length).map (fun (video,index) => videoStream draws video index)

/- The checks are those of the negotiation's builder. -/
def build (b : DocumentBuilder) (draws : Nat → Draw) : Except OfferError OfferDocument :=
  (b.builder.build draws).map fun _ => ⟨b.castMode,b.streams draws⟩

variable {b : DocumentBuilder} {draws : Nat → Draw} {d : OfferDocument}

theorem streamsOffered (offer : Offer) (built : b.builder.build draws = .ok offer) :
    (b.streams draws).map OfferedStream.toStreamOffer = offer.streams := by
  rw [OfferBuilder.builtStreams built]
  simp only [streams,builder,List.map_append,List.map_map,List.zipIdx_map]
  rfl

theorem built (made : b.build draws = .ok d) :
    d = ⟨b.castMode,b.streams draws⟩ ∧ b.builder.build draws = .ok d.offer := by
  unfold build at made
  cases checked : b.builder.build draws with
  | error refusal =>
    rw [checked] at made
    contradiction
  | ok offer =>
    rw [checked] at made
    cases Except.ok.inj made
    exact ⟨rfl,congrArg (fun streams => Except.ok (Offer.mk streams)) (streamsOffered offer checked).symm⟩

end DocumentBuilder

def streamTypeName : StreamType → String
  | .audio => "audio_source"
  | .video => "video_source"

def Json.ofNat (n : Nat) : Json := .number (.unsigned (UInt64.ofNat n))

def Json.ofHex (data : Bytes) : Json := .string (String.ofList (hexEncode true data))

def Resolution.toValue (r : Resolution) : Json :=
  .object [("width",.ofU32 r.width),("height",.ofU32 r.height)]

/- `serialize` of one stream; the delay is cut to 32 bits of milliseconds. -/
def OfferedStream.toValue (s : OfferedStream) : Json :=
  .object ([("index",.ofNat s.index),("type",.string (streamTypeName s.streamType)),("codecName",.string s.codecName),
    ("rtpProfile",.string "cast"),("rtpPayloadType",.ofNat s.rtpPayloadType.toNat),("ssrc",.ofU32 s.syncSource),
    ("timeBase",.string ("1/" ++ decimal s.rtpTimebase.toNat)),
    ("targetDelay",.ofU32 (UInt32.ofNat (s.targetDelay/1000000))),("aesKey",.ofHex s.aesKey.toList),
    ("aesIvMask",.ofHex s.aesIvMask.toList),("channels",.ofNat s.channels.toNat),
    ("rtpExtensions",.array (s.rtpExtensions.map Json.string))] ++
    (s.audioExtra.toList.map fun bitRate => ("bitRate",Json.ofU32 bitRate)) ++
    s.videoExtra.toList.flatMap fun video => [("maxFrameRate",Json.string video.maxFrameRate.display),
      ("maxBitRate",.ofU32 video.maxBitRate),("resolutions",.array (video.resolutions.map Resolution.toValue))])

def OfferDocument.toValue (d : OfferDocument) : Json :=
  .object [("castMode",.string d.castMode.name),("supportedStreams",.array (d.streams.map OfferedStream.toValue))]

structure ReceivedStream where
  type : StreamType
  payloadType : UInt8
  syncSource : SyncSource
  timebase : UInt32
  targetDelayMs : UInt32
  aesKey : Block
  aesIvMask : Block
  deriving DecidableEq, Repr

def readType : String → Option StreamType
  | "audio_source" => some .audio
  | "video_source" => some .video
  | _ => none

def readTimebase (text : String) : Option UInt32 :=
  match text.toList with
  | '1' :: '/' :: rest => parseU32 rest
  | _ => none

def readBlock (text : String) : Option Block := do
  let data ← hexDecode text.toList
  if size : data.length = 16 then some ⟨data.toArray,by simpa using size⟩ else none

def readStream (value : Json) : Option ReceivedStream := do
  let type ← readType (← (← value.get "type").asStr)
  let payloadType ← (← value.get "rtpPayloadType").asU64
  let syncSource ← jsonU32 value "ssrc"
  let timebase ← readTimebase (← (← value.get "timeBase").asStr)
  let targetDelay ← jsonU32 value "targetDelay"
  let aesKey ← readBlock (← (← value.get "aesKey").asStr)
  let aesIvMask ← readBlock (← (← value.get "aesIvMask").asStr)
  some ⟨type,payloadType.toUInt8,syncSource,timebase,targetDelay,aesKey,aesIvMask⟩

def offeredAt (value : Json) (index : Nat) : Option Json := do
  let streams ← (← value.get "supportedStreams").asArray
  streams.find? fun stream => ((stream.get "index").bind Json.asU64).any (·.toNat = index)

def readOffered (value : Json) (index : Nat) : Option ReceivedStream := (offeredAt value index).bind readStream

def readResolution (value : Json) : Option Resolution := do
  let width ← jsonU32 value "width"
  let height ← jsonU32 value "height"
  if nonzero : width ≠ 0 ∧ height ≠ 0 then some ⟨width,height,nonzero⟩ else none

def StreamOffer.received (s : StreamOffer) : ReceivedStream :=
  ⟨s.streamType,s.rtpPayloadType,s.syncSource,s.rtpTimebase,UInt32.ofNat (s.targetDelay/1000000),s.aesKey,s.aesIvMask⟩

theorem readDecimal (n : UInt32) : parseU32 (decimal n.toNat).toList = some n := by
  rw [parseU32,decimal,String.toList_ofList,readToDigits (by decide) (by decide) n.toNat_lt]
  simp

theorem readBlockHex (block : Block) : readBlock (String.ofList (hexEncode true block.toList)) = some block := by
  rw [readBlock,String.toList_ofList,hexDecodeEncode]
  have size : block.toList.length = 16 := block.length_toList
  simp only [Option.bind_eq_bind,Option.bind_some,dif_pos size]
  rfl

theorem readTimebaseText (n : UInt32) : readTimebase ("1/" ++ decimal n.toNat) = some n := by
  have split : ("1/" ++ decimal n.toNat).toList = '1' :: '/' :: (decimal n.toNat).toList := by
    rw [String.toList_append]
    rfl
  rw [readTimebase,split]
  exact readDecimal n

theorem jsonU32Read {value : Json} {field : String} {n : UInt32} (found : value.get field = some (.ofU32 n)) :
    jsonU32 value field = some n := by
  have small : n.toUInt64.toNat < 2^32 := by
    rw [UInt32.toNat_toUInt64]
    exact n.toNat_lt
  simp only [jsonU32,found,Json.ofU32,Json.asU64,Option.bind_eq_bind,Option.bind_some,if_pos small]
  simp

theorem OfferedStream.readBack (s : OfferedStream) : readStream s.toValue = some s.toStreamOffer.received := by
  have type : s.toValue.get "type" = some (.string (streamTypeName s.streamType)) := rfl
  have payloadType : s.toValue.get "rtpPayloadType" = some (.ofNat s.rtpPayloadType.toNat) := rfl
  have syncSource : jsonU32 s.toValue "ssrc" = some s.syncSource := by
    have found : s.toValue.get "ssrc" = some (.ofU32 s.syncSource) := rfl
    exact jsonU32Read found
  have timeBase : s.toValue.get "timeBase" = some (.string ("1/" ++ decimal s.rtpTimebase.toNat)) := rfl
  have targetDelay : jsonU32 s.toValue "targetDelay" = some (UInt32.ofNat (s.targetDelay/1000000)) := by
    have found : s.toValue.get "targetDelay" = some (.ofU32 (UInt32.ofNat (s.targetDelay/1000000))) := rfl
    exact jsonU32Read found
  have aesKey : s.toValue.get "aesKey" = some (.ofHex s.aesKey.toList) := rfl
  have aesIvMask : s.toValue.get "aesIvMask" = some (.ofHex s.aesIvMask.toList) := rfl
  have kind : readType (streamTypeName s.streamType) = some s.streamType := by
    cases s.streamType <;> rfl
  simp only [readStream,type,payloadType,syncSource,timeBase,targetDelay,aesKey,aesIvMask,Json.ofHex,Json.ofNat,
    Json.asStr,Json.asU64,kind,readTimebaseText,readBlockHex,Option.bind_eq_bind,Option.bind_some,
    StreamOffer.received]
  simp

theorem Resolution.readBack (r : Resolution) : readResolution r.toValue = some r := by
  have width : jsonU32 r.toValue "width" = some r.width := jsonU32Read rfl
  have height : jsonU32 r.toValue "height" = some r.height := jsonU32Read rfl
  simp only [readResolution,width,height,Option.bind_eq_bind,Option.bind_some,dif_pos r.nonzero]

theorem mapMAll {α β : Type} {f : α → Option β} {g : α → β} {items : List α}
    (all : ∀ item ∈ items, f item = some (g item)) : items.mapM f = some (items.map g) := by
  induction items with
  | nil => rfl
  | cons first rest ih =>
    rw [List.mapM_cons,all first List.mem_cons_self,ih fun item member => all item (List.mem_cons_of_mem _ member)]
    rfl

theorem OfferDocument.offeredAt {d : OfferDocument} (small : ∀ s ∈ d.streams, s.index < 2^64) (index : Nat) :
    Chromiacast.offeredAt d.toValue index = (d.streams.find? fun s => s.index = index).map OfferedStream.toValue := by
  have streams : d.toValue.get "supportedStreams" = some (.array (d.streams.map OfferedStream.toValue)) := rfl
  have named (s : OfferedStream) (member : s ∈ d.streams) :
      ((s.toValue.get "index").bind Json.asU64).any (·.toNat = index) = decide (s.index = index) := by
    have value : s.toValue.get "index" = some (.ofNat s.index) := rfl
    have exact' : (UInt64.ofNat s.index).toNat = s.index := by
      rw [UInt64.toNat_ofNat',Nat.mod_eq_of_lt (small s member)]
    simp [value,Json.ofNat,Json.asU64,exact']
  simp only [Chromiacast.offeredAt,streams,Json.asArray,Option.bind_eq_bind,Option.bind_some,List.find?_map]
  exact congrArg _ (List.find?_congr fun s member => named s member)

theorem OfferDocument.readOffered {d : OfferDocument} (small : ∀ s ∈ d.streams, s.index < 2^64) {index : Nat}
    {offered : StreamOffer} (found : d.offer.stream index = some offered) :
    Chromiacast.readOffered d.toValue index = some offered.received := by
  rw [Offer.stream,OfferDocument.offer,List.find?_map,Option.map_eq_some_iff] at found
  obtain ⟨s,first,rfl⟩ := found
  have same : (d.streams.find? fun s => s.index = index) = some s := first
  rw [Chromiacast.readOffered,offeredAt small,same]
  exact s.readBack

theorem DocumentBuilder.indexSmall {b : DocumentBuilder} {draws : Nat → Draw} {d : OfferDocument}
    (offer : b.builder.build draws = .ok d.offer) {s : OfferedStream} (member : s ∈ d.streams) :
    s.index < b.audio.length+b.video.length := by
  have listed : s.index ∈ d.offer.streams.map StreamOffer.index :=
    List.mem_map_of_mem (List.mem_map_of_mem member)
  rw [OfferBuilder.builtIndexes offer,List.mem_range,OfferBuilder.builtStreams offer] at listed
  simpa [DocumentBuilder.builder] using listed

def exampleDocument : DocumentBuilder :=
  ⟨.mirroring,SenderSession.exampleBuilder.audio,
    SenderSession.exampleBuilder.video.map fun video => ⟨video,⟨30,1,by decide⟩⟩⟩

end Chromiacast
