import Chromiacast.Negotiation
import Chromiacast.Routing

/-! From an offer and an answer to isolated streams: every started stream takes its
parameters from one offered stream and one position of the answer, the two streams
have different SSRCs on both sides, and through every later step of the session an
item of a compound reaches only the stream it names. -/
namespace Chromiacast
open Basis

namespace OfferBuilder

theorem generatedAudio (draw : Fin 50000) :
    1 ≤ (generateAudio draw).toNat ∧ (generateAudio draw).toNat ≤ 50000 := by
  have bound := draw.isLt
  have first : minimumAudioSyncSource.toNat = 1 := rfl
  rw [generateAudio,UInt32.toNat_add,UInt32.toNat_ofNat',first]
  omega

theorem generatedVideo (draw : Fin 50000) :
    50001 ≤ (generateVideo draw).toNat ∧ (generateVideo draw).toNat ≤ 100000 := by
  have bound := draw.isLt
  have first : minimumVideoSyncSource.toNat = 50001 := rfl
  rw [generateVideo,UInt32.toNat_add,UInt32.toNat_ofNat',first]
  omega

def InRange (offered : StreamOffer) : Prop :=
  match offered.streamType with
  | .audio => 1 ≤ offered.syncSource.toNat ∧ offered.syncSource.toNat ≤ 50000
  | .video => 50001 ≤ offered.syncSource.toNat ∧ offered.syncSource.toNat ≤ 100000

theorem builtStreams {b : OfferBuilder} {draws : Nat → Draw} {offer : Offer} (built : b.build draws = .ok offer) :
    offer.streams = b.audio.zipIdx.map (fun (audio,index) => audioOffer draws audio index) ++
      (b.video.zipIdx b.audio.length).map (fun (video,index) => videoOffer draws video index) := by
  unfold build at built
  split at built
  · contradiction
  · split at built
    · contradiction
    · split at built
      · contradiction
      · cases built
        rfl

theorem buildRanges {b : OfferBuilder} {draws : Nat → Draw} {offer : Offer} (built : b.build draws = .ok offer) :
    ∀ offered ∈ offer.streams, InRange offered ∧ offered.rtpPayloadType < 128 := by
  rw [builtStreams built]
  intro offered member
  rcases List.mem_append.mp member with audio | video
  · obtain ⟨⟨config,index⟩,_,rfl⟩ := List.mem_map.mp audio
    refine ⟨generatedAudio _,?_⟩
    simp only [audioOffer]
    cases config.codec <;> decide
  · obtain ⟨⟨config,index⟩,_,rfl⟩ := List.mem_map.mp video
    refine ⟨generatedVideo _,?_⟩
    simp only [videoOffer]
    cases config.codec <;> decide

end OfferBuilder

theorem checkOk {ε α : Type} {c : Prop} [Decidable c] {error : ε} {next : Except ε α} {value : α} :
    (if c then .error error else next) = .ok value ↔ ¬ c ∧ next = .ok value := by
  split <;> simp [*]

theorem bindOk {ε α β : Type} {x : Except ε α} {f : α → Except ε β} {b : β} :
    (x >>= f) = .ok b ↔ ∃ a, x = .ok a ∧ f a = .ok b := by
  cases x with
  | error e => simp [bind,Except.bind]
  | ok a => simp [bind,Except.bind]

theorem okOrOk {α : Type} {value : Option α} {message : String} {a : α} :
    okOr value message = .ok a ↔ value = some a := by
  cases value <;> simp [okOr]

theorem validated {answer : Answer} (valid : answer.validate = .ok ()) :
    answer.sendIndexes.length = answer.syncSources.length ∧ answer.sendIndexes.Nodup ∧ answer.syncSources.Nodup := by
  have nodup {α : Type} [DecidableEq α] {l : List α} (same : ¬ l.dedup.length ≠ l.length) : l.Nodup := by
    rw [← List.dedup_eq_self]
    exact (List.dedup_sublist l).eq_of_length (not_not.mp same)
  simp only [Answer.validate,checkOk] at valid
  obtain ⟨_,lengths,_,_,_,indexes,sources,_⟩ := valid
  exact ⟨not_not.mp lengths,nodup indexes,nodup sources⟩

namespace SenderSession

def started (offered : StreamOffer) (answer : Answer) (isIpv6 : Bool) (sequenceNumber : UInt16) (k : Nat) : StreamState :=
  StreamState.new ⟨offered.syncSource,receiverSyncSource answer k,offered.rtpPayloadType,offered.rtpTimebase,
    offered.targetDelay,answer.adaptive k,offered.aesKey,offered.aesIvMask,maxPacketSize isIpv6,
    packetRoom isIpv6⟩ sequenceNumber

theorem acceptStreamOk {offer : Offer} {answer : Answer} {isIpv6 : Bool} {sequenceNumber : UInt16} {k index : Nat}
    {type : StreamType} {state : StreamState}
    (ok : acceptStream offer answer isIpv6 sequenceNumber k index = .ok (type,state)) :
    ∃ offered, offer.stream index = some offered ∧ offered.streamType = type ∧
      state = started offered answer isIpv6 sequenceNumber k := by
  simp only [acceptStream,bindOk,okOrOk,checkOk] at ok
  obtain ⟨source,hs,key,hk,mask,hm,timebase,ht,payload,hp,delay,hd,kind,hn,_,last⟩ := ok
  obtain ⟨offered,found,rfl⟩ := Option.map_eq_some_iff.mp hs
  simp only [Offer.streamAesKey,Offer.streamAesIvMask,Offer.streamRtpTimebase,Offer.streamRtpPayloadType,
    Offer.streamTargetDelay,Offer.streamType,found,Option.map_some,Option.some.injEq] at hk hm ht hp hd hn
  subst hk hm ht hp hd hn
  cases last
  exact ⟨offered,found,rfl,rfl⟩

structure Origin (offer : Offer) (answer : Answer) (isIpv6 : Bool) (sequenceNumbers : Nat → UInt16)
    (type : StreamType) (state : StreamState) (k : Nat) (offered : StreamOffer) : Prop where
  position : ∃ index, answer.sendIndexes[k]? = some index ∧ offer.stream index = some offered
  type : offered.streamType = type
  state : state = started offered answer isIpv6 (sequenceNumbers k) k

theorem acceptStreamsOk {offer : Offer} {answer : Answer} {isIpv6 : Bool} {sequenceNumbers : Nat → UInt16}
    {i : Nat} {rest : List Nat} {session final : Session} (suffix : answer.sendIndexes.drop i = rest)
    (ok : acceptStreams offer answer isIpv6 sequenceNumbers i rest session = .ok final) :
    (∀ type state, session.get type = some state → final.get type = some state) ∧
    (∀ type state, final.get type = some state → session.get type = some state ∨
      ∃ k offered, Origin offer answer isIpv6 sequenceNumbers type state k offered) ∧
    ∀ k, i ≤ k → k < answer.sendIndexes.length → ∃ type state offered, final.get type = some state ∧
      Origin offer answer isIpv6 sequenceNumbers type state k offered := by
  induction rest generalizing i session with
  | nil =>
    cases ok
    refine ⟨fun _ _ present => present,fun _ _ present => .inl present,?_⟩
    intro k low high
    have short := List.drop_eq_nil_iff.mp suffix
    omega
  | cons index rest ih =>
    simp only [acceptStreams,bindOk,checkOk] at ok
    obtain ⟨⟨type,state⟩,first,fresh,later⟩ := ok
    obtain ⟨offered,found,kind,value⟩ := acceptStreamOk first
    have head : answer.sendIndexes[i]? = some index := by
      have zero := congrArg (fun l => l[0]?) suffix
      simpa using zero
    have tail : answer.sendIndexes.drop (i+1) = rest := by
      have tails := congrArg List.tail suffix
      simpa [List.tail_drop] using tails
    have origin : Origin offer answer isIpv6 sequenceNumbers type state i offered := ⟨⟨index,head,found⟩,kind,value⟩
    obtain ⟨kept,sources,all⟩ := ih tail later
    have put : final.get type = some state := kept type state (by rw [Session.putGet,if_pos rfl])
    refine ⟨?_,?_,?_⟩
    · intro t x present
      refine kept t x ?_
      have other : t ≠ type := by
        rintro rfl
        simp [present] at fresh
      rw [Session.putGet,if_neg other]
      exact present
    · intro t x present
      rcases sources t x present with before | origin
      · rw [Session.putGet] at before
        split at before
        · rename_i same
          cases Option.some.inj before
          subst same
          exact .inr ⟨i,offered,origin⟩
        · exact .inl before
      · exact .inr origin
    · intro k low high
      by_cases here : k = i
      · subst here
        exact ⟨type,state,offered,put,origin⟩
      · exact all k (by omega) high

theorem startAddressOk {offer : Offer} {answer : Answer} {isIpv6 : Bool} {sequenceNumbers : Nat → UInt16}
    {session : Session} (ok : startAddress offer answer isIpv6 sequenceNumbers = .ok session) :
    answer.validate = .ok () ∧
    (∀ type state, session.get type = some state →
      ∃ k offered, Origin offer answer isIpv6 sequenceNumbers type state k offered) ∧
    ∀ k, k < answer.sendIndexes.length → ∃ type state offered, session.get type = some state ∧
      Origin offer answer isIpv6 sequenceNumbers type state k offered := by
  unfold startAddress at ok
  split at ok
  · contradiction
  · rename_i valid
    simp only [bindOk,checkOk] at ok
    obtain ⟨final,accepted,_,last⟩ := ok
    cases last
    obtain ⟨_,sources,all⟩ := acceptStreamsOk (by simp) accepted
    refine ⟨valid,?_,fun k => all k (Nat.zero_le k)⟩
    intro type state present
    rcases sources type state present with none' | origin
    · cases type <;> simp [Session.get] at none'
    · exact origin

theorem Origin.receiver {offer : Offer} {answer : Answer} {isIpv6 : Bool} {sequenceNumbers : Nat → UInt16}
    {type : StreamType} {state : StreamState} {k : Nat} {offered : StreamOffer}
    (o : Origin offer answer isIpv6 sequenceNumbers type state k offered) (valid : answer.validate = .ok ()) :
    answer.syncSources[k]? = some state.receiverSyncSource := by
  obtain ⟨index,position,_⟩ := o.position
  obtain ⟨inside,_⟩ := List.getElem?_eq_some_iff.mp position
  have bound : k < answer.syncSources.length := (validated valid).1 ▸ inside
  rw [o.state,List.getElem?_eq_getElem bound]
  simp [started,StreamState.new,receiverSyncSource,bound]

theorem startSeparate {b : OfferBuilder} {draws : Nat → Draw} {offer : Offer} {answer : Answer} {isIpv6 : Bool}
    {sequenceNumbers : Nat → UInt16} {session : Session} (built : b.build draws = .ok offer)
    (ok : startAddress offer answer isIpv6 sequenceNumbers = .ok session) : session.Separate := by
  obtain ⟨valid,origins,_⟩ := startAddressOk ok
  intro audio video ha hv
  obtain ⟨k,a,oa⟩ := origins .audio audio ha
  obtain ⟨j,v,ov⟩ := origins .video video hv
  obtain ⟨_,atK,foundA⟩ := oa.position
  obtain ⟨_,atJ,foundV⟩ := ov.position
  constructor
  · have low := (OfferBuilder.buildRanges built a (List.mem_of_find?_eq_some foundA)).1
    have high := (OfferBuilder.buildRanges built v (List.mem_of_find?_eq_some foundV)).1
    simp only [OfferBuilder.InRange,oa.type,ov.type] at low high
    have sender : audio.senderSyncSource = a.syncSource := by rw [oa.state]; rfl
    have sender' : video.senderSyncSource = v.syncSource := by rw [ov.state]; rfl
    rw [sender,sender']
    intro same
    rw [same] at low
    omega
  · intro same
    have left := oa.receiver valid
    have right := ov.receiver valid
    rw [same] at left
    obtain ⟨bound,_⟩ := List.getElem?_eq_some_iff.mp left
    have position : k = j := (List.getElem?_inj bound (validated valid).2.2).mp (left.trans right.symm)
    subst position
    rw [atK] at atJ
    cases Option.some.inj atJ
    rw [foundA] at foundV
    cases Option.some.inj foundV
    have types := oa.type.symm.trans ov.type
    contradiction

end SenderSession

namespace Session

inductive SessionOperation where
  | stream (type : StreamType) (operation : StreamState.Operation)
  | feedback (compound : CompoundRtcpPacket) (receivedAt : Nat)

def step (aes : BlockCipher) (s : Session) : SessionOperation → Session
  | .stream type operation =>
    match s.get type with
    | none => s
    | some x => s.put type (StreamState.step aes x operation).1
  | .feedback compound receivedAt => (s.processFeedback compound receivedAt).session

def after (aes : BlockCipher) (s : Session) (operations : List SessionOperation) : Session :=
  operations.foldl (step aes) s

structure Later (s t : Session) : Prop where
  separate : t.Separate
  sources : ∀ type, (t.get type).map StreamState.sources = (s.get type).map StreamState.sources

theorem stepLater (aes : BlockCipher) {s t : Session} (later : Later s t) (operation : SessionOperation) :
    Later s (t.step aes operation) := by
  have keep {u : Session} {g : StreamType → StreamState → StreamState}
      (keeps : ∀ type x, (g type x).sources = x.sources) (maps : ∀ type, u.get type = (t.get type).map (g type)) :
      Later s u := by
    refine ⟨later.separate.map keeps maps,?_⟩
    intro type
    rw [maps,Option.map_map,← later.sources type]
    congr 1
    funext x
    exact keeps type x
  cases operation with
  | stream type operation =>
    refine keep (g := fun k x => if k = type then (StreamState.step aes x operation).1 else x) ?_ ?_
    · intro k x
      split
      · exact StreamState.stepSources ..
      · rfl
    · intro k
      cases found : t.get type with
      | none =>
        simp only [step,found]
        by_cases same : k = type
        · subst same
          simp [found]
        · simp [same]
      | some x =>
        simp only [step,found]
        rw [putGet]
        by_cases same : k = type
        · subst same
          simp [found]
        · simp [same]
  | feedback compound receivedAt =>
    exact keep (fun _ x => runSources aes x _) (processFeedbackStream aes later.separate compound receivedAt)

theorem afterLater (aes : BlockCipher) {s : Session} (separate : s.Separate) (operations : List SessionOperation) :
    Later s (s.after aes operations) := by
  induction operations using List.reverseRecOn with
  | nil => exact ⟨separate,fun _ => rfl⟩
  | append_singleton rest operation ih =>
    rw [after,List.foldl_append]
    exact stepLater aes ih operation

def only (sources : SyncSource × SyncSource) (compound : CompoundRtcpPacket) : CompoundRtcpPacket where
  receiverReports := compound.receiverReports.filter
    (fun report => sources = (report.syncSource,report.receiverSyncSource))
  castFeedbacks := compound.castFeedbacks.filter
    (fun feedback => sources = (feedback.senderSyncSource,feedback.receiverSyncSource))
  pictureLoss := compound.pictureLoss.filter (fun loss => sources = (loss.senderSyncSource,loss.receiverSyncSource))
  receiverReferenceTimes := compound.receiverReferenceTimes.filter
    (fun report => sources.2 = report.receiverSyncSource)

theorem ownOnly (sources : SyncSource × SyncSource) (compound : CompoundRtcpPacket) (receivedAt : Nat) :
    ownOperations sources (only sources compound) receivedAt = ownOperations sources compound receivedAt := by
  simp [ownOperations,only,List.filter_filter]

theorem isolated {s : Session} (separate : s.Separate) {type : StreamType} {x : StreamState}
    (here : s.get type = some x) (compound : CompoundRtcpPacket) (receivedAt : Nat) :
    (s.processFeedback compound receivedAt).session.get type =
      (s.processFeedback (only x.sources compound) receivedAt).session.get type := by
  -- the cipher plays no part in feedback; any one will do
  rw [processFeedbackStream (fun _ block => block) separate,processFeedbackStream (fun _ block => block) separate,here]
  simp only [Option.map_some,ownOnly]

end Session

namespace SenderSession

theorem streamsIsolated (aes : BlockCipher) (b : OfferBuilder) (draws : Nat → Draw) (offer : Offer) (answer : Answer)
    (isIpv6 : Bool) (sequenceNumbers : Nat → UInt16) (session : Session) (built : b.build draws = .ok offer)
    (ok : startAddress offer answer isIpv6 sequenceNumbers = .ok session) :
    (∀ type state, session.get type = some state → ∃ k index offered,
      answer.sendIndexes[k]? = some index ∧ offer.stream index = some offered ∧ offered.index = index ∧
      offered.streamType = type ∧ state.senderSyncSource = offered.syncSource ∧
      state.crypto = ⟨offered.aesKey,offered.aesIvMask⟩ ∧ state.rtpTimebase = offered.rtpTimebase ∧
      state.packetizer.payloadType = offered.rtpPayloadType ∧ state.targetPlayoutDelay = offered.targetDelay ∧
      answer.syncSources[k]? = some state.receiverSyncSource ∧ state.adaptivePlayoutDelay = answer.adaptive k) ∧
    (∀ k, k < answer.sendIndexes.length → ∃ type state, session.get type = some state ∧
      answer.syncSources[k]? = some state.receiverSyncSource) ∧
    (∀ audio video, session.audio = some audio → session.video = some video →
      audio.senderSyncSource ≠ video.senderSyncSource ∧ audio.receiverSyncSource ≠ video.receiverSyncSource) ∧
    ∀ (operations : List Session.SessionOperation) (compound : CompoundRtcpPacket) (receivedAt : Nat)
      (type : StreamType) (state : StreamState), session.get type = some state →
      ((session.after aes operations).processFeedback compound receivedAt).session.get type =
        ((session.after aes operations).processFeedback
          (Session.only (state.senderSyncSource,state.receiverSyncSource) compound) receivedAt).session.get type := by
  obtain ⟨valid,origins,all⟩ := startAddressOk ok
  have separate := startSeparate built ok
  refine ⟨?_,?_,separate,?_⟩
  · intro type state present
    obtain ⟨k,offered,o⟩ := origins type state present
    have receiver := o.receiver valid
    obtain ⟨index,position,found⟩ := o.position
    have named : offered.index = index := by simpa using List.find?_some found
    have value := o.state
    subst value
    exact ⟨k,index,offered,position,found,named,o.type,rfl,rfl,rfl,rfl,rfl,receiver,rfl⟩
  · intro k inside
    obtain ⟨type,state,offered,present,o⟩ := all k inside
    exact ⟨type,state,present,o.receiver valid⟩
  · intro operations compound receivedAt type state present
    have later := Session.afterLater aes separate operations
    have kept := later.sources type
    rw [present] at kept
    obtain ⟨x,here,sources⟩ := Option.map_eq_some_iff.mp kept
    have same : x.sources = (state.senderSyncSource,state.receiverSyncSource) := sources
    rw [← same]
    exact Session.isolated later.separate here compound receivedAt

def exampleBuilder : OfferBuilder :=
  ⟨[⟨.opus,128000,48000,2,millis 400⟩],[⟨.h264,10000000,[⟨1920,1080,by decide⟩],millis 400⟩]⟩

def exampleDraws (index : Nat) : Draw :=
  ⟨⟨index%50000,Nat.mod_lt _ (by decide)⟩,Vector.replicate 16 7,Vector.replicate 16 9⟩

def exampleAnswer : Answer := ⟨2344,[0,1],[60000,30000],none,none,none⟩

theorem exampleStreamsIsolated : ∃ offer session audio video, exampleBuilder.build exampleDraws = .ok offer ∧
    startAddress offer exampleAnswer false (fun _ => 0) = .ok session ∧ session.audio = some audio ∧
    session.video = some video ∧ audio.senderSyncSource ≠ video.senderSyncSource ∧
    audio.receiverSyncSource ≠ video.receiverSyncSource := by
  refine ⟨_,_,_,_,rfl,rfl,rfl,rfl,?_⟩
  exact (streamsIsolated (fun _ block => block) exampleBuilder exampleDraws _ exampleAnswer false (fun _ => 0) _
    rfl rfl).2.2.1 _ _ rfl rfl

end SenderSession
end Chromiacast
