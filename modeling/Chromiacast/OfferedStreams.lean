import Chromiacast.Isolation

/-! The streams of an offer by index and by SSRC. The indexes number them; the SSRCs
tell them apart only as far as the generator's draws within each of the two loops do. -/
namespace Chromiacast.OfferBuilder
open Basis

def audioDraws (b : OfferBuilder) (draws : Nat → Draw) : List (Fin 50000) :=
  (List.range b.audio.length).map fun index => (draws index).syncSource

def videoDraws (b : OfferBuilder) (draws : Nat → Draw) : List (Fin 50000) :=
  (List.range' b.audio.length b.video.length).map fun index => (draws index).syncSource

theorem generatedInjective {base : SyncSource} {x y : Fin 50000}
    (same : base+UInt32.ofNat x = base+UInt32.ofNat y) : x = y := by
  have values := congrArg UInt32.toNat same
  have first := x.isLt
  have second := y.isLt
  rw [UInt32.toNat_add,UInt32.toNat_add,UInt32.toNat_ofNat',UInt32.toNat_ofNat'] at values
  apply Fin.ext
  omega

theorem audioInjective : Function.Injective generateAudio :=
  fun _ _ same => generatedInjective same

theorem videoInjective : Function.Injective generateVideo :=
  fun _ _ same => generatedInjective same

theorem zipIdxMap {α β : Type} (f : Nat → β) (configs : List α) (first : Nat) :
    (configs.zipIdx first).map (fun entry => f entry.2) = (List.range' first configs.length).map f := by
  rw [← List.zipIdx_map_snd first configs,List.map_map]
  rfl

theorem builtIndexes {b : OfferBuilder} {draws : Nat → Draw} {offer : Offer} (built : b.build draws = .ok offer) :
    offer.streams.map StreamOffer.index = List.range offer.streams.length := by
  have audio := zipIdxMap id b.audio 0
  have video := zipIdxMap id b.video b.audio.length
  rw [List.map_id] at audio video
  have numbered : offer.streams.map StreamOffer.index =
      List.range' 0 b.audio.length ++ List.range' b.audio.length b.video.length := by
    rw [builtStreams built,List.map_append,List.map_map,List.map_map,← audio,← video]
    rfl
  have count : offer.streams.length = b.audio.length+b.video.length := by
    rw [← List.length_map StreamOffer.index,numbered,List.length_append,List.length_range',List.length_range']
  have joined := @List.range'_append 0 b.audio.length b.video.length 1
  rw [numbered,count,List.range_eq_range',← joined,Nat.zero_add,Nat.one_mul]

theorem builtSyncSources {b : OfferBuilder} {draws : Nat → Draw} {offer : Offer} (built : b.build draws = .ok offer) :
    offer.streams.map StreamOffer.syncSource =
      (b.audioDraws draws).map generateAudio ++ (b.videoDraws draws).map generateVideo := by
  have audio := zipIdxMap (fun index => generateAudio (draws index).syncSource) b.audio 0
  have video := zipIdxMap (fun index => generateVideo (draws index).syncSource) b.video b.audio.length
  rw [builtStreams built,List.map_append,List.map_map,List.map_map,audioDraws,videoDraws,List.map_map,List.map_map,
    List.range_eq_range']
  exact congrArg₂ _ audio video

/- The two ranges are disjoint, so a clash is one between two draws of one loop. -/
theorem offeredStreamsDistinct {b : OfferBuilder} {draws : Nat → Draw} {offer : Offer}
    (built : b.build draws = .ok offer) :
    offer.streams.map StreamOffer.index = List.range offer.streams.length ∧
      ((b.audioDraws draws).Nodup ∧ (b.videoDraws draws).Nodup ↔
        (offer.streams.map StreamOffer.syncSource).Nodup) := by
  refine ⟨builtIndexes built,?_⟩
  rw [builtSyncSources built,List.nodup_append',List.nodup_map_iff audioInjective,List.nodup_map_iff videoInjective]
  refine ⟨fun ⟨audio,video⟩ => ⟨audio,video,?_⟩,fun ⟨audio,video,_⟩ => ⟨audio,video⟩⟩
  intro syncSource left right
  obtain ⟨x,_,rfl⟩ := List.mem_map.mp left
  obtain ⟨y,_,same⟩ := List.mem_map.mp right
  have low := generatedAudio x
  have high := generatedVideo y
  rw [same] at high
  omega

def twoCodecs : OfferBuilder :=
  ⟨[],[VideoCodec.h264,.vp8].flatMap fun codec => SenderSession.exampleBuilder.video.map ({ · with codec })⟩

theorem twoCodecsDistinct : ∃ offer, twoCodecs.build SenderSession.exampleDraws = .ok offer ∧
    offer.streams.map StreamOffer.index = List.range 2 ∧ (offer.streams.map StreamOffer.syncSource).Nodup := by
  refine ⟨_,rfl,?_⟩
  have distinct := offeredStreamsDistinct (show twoCodecs.build SenderSession.exampleDraws = .ok _ from rfl)
  exact ⟨distinct.1,distinct.2.mp (by decide)⟩

theorem repeatedDrawClashes : ∃ offer, twoCodecs.build (fun _ => SenderSession.exampleDraws 7) = .ok offer ∧
    offer.streams.map StreamOffer.syncSource = [50008,50008] := ⟨_,rfl,rfl⟩

end Chromiacast.OfferBuilder
