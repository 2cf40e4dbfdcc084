import Chromiacast.ControlSessions

/-! Credentials restricted to audio. Whatever is called on a connection whose credential chain carries
the restriction, no video stream is ever offered over it. -/
namespace Chromiacast
open Basis

inductive CastConnection.Api (connection : CastConnection) (fromValue : Json → Except String Answer) :
    {α : Type} → Call α → Prop
  | getDeviceInfo : Api connection fromValue connection.getDeviceInfo
  | getEurekaInfo : Api connection fromValue connection.getEurekaInfo
  | getAppAvailability (appId : String) : Api connection fromValue (getAppAvailability appId)
  | status : Api connection fromValue status
  | setVolumeLevel (level : UInt64) : Api connection fromValue (setVolumeLevel level)
  | setMuted (muted : Bool) : Api connection fromValue (setMuted muted)
  | launch (appId : String) : Api connection fromValue (launch appId)
  | stop (app : CastApp) : Api connection fromValue (stop app)
  | exchangeOffer (offer : OfferDocument) (app : CastApp) :
      Api connection fromValue (connection.exchangeOffer fromValue offer app)
  | close : Api connection fromValue close

def CastConnection.Issues (connection : CastConnection) (fromValue : Json → Except String Answer)
    (command : ControlCommand) : Prop :=
  ∃ (α : Type) (call : Call α), connection.Api fromValue call ∧ call.Asks (.command command)

/- What may be asked of the loop on a connection: offers within its restriction, and no message of
another kind to an application than those that open and close it. -/
def Question.Permitted (connection : CastConnection) : Question → Prop
  | .command (.sendOffer _ value) =>
    ∃ offer : OfferDocument, value = offer.toValue ∧ ¬ (connection.audioOnly ∧ offer.hasVideo)
  | .command (.sendFire nameSpace _ _) => nameSpace = nsConnection
  | _ => True

def Call.Within {α : Type} (connection : CastConnection) (call : Call α) : Prop :=
  ∀ q, call.Asks q → q.Permitted connection

namespace Call
variable {connection : CastConnection} {α β : Type}

theorem withinDone (result : Except CallError α) : Within connection (.done result) := fun _ asks => absurd asks id

theorem withinAsk {q : Question} {next : q.Reply → Call α} (permitted : q.Permitted connection)
    (rest : ∀ reply, Within connection (next reply)) : Within connection (.ask q next) := by
  rintro other (rfl | ⟨reply,later⟩)
  · exact permitted
  · exact rest reply other later

theorem withinAndThen {call : Call α} {next : α → Call β} (first : Within connection call)
    (second : ∀ value, Within connection (next value)) : Within connection (call.andThen next) := by
  intro q asks
  rcases Dialogue.asksBind asks with before | ⟨result,after⟩
  · exact first q before
  · cases result with
    | ok value => exact second value q after
    | error e => exact absurd after id

end Call

namespace CastConnection
open Call
variable {connection : CastConnection} {fromValue : Json → Except String Answer}

theorem receiverRequestWithin {operation : ReceiverOperation} {payload : Option (List (String × Json))}
    {custom : payload = none → operation ≠ .setVolume ∧ operation ≠ .stop} {description : String} :
    Within connection (receiverRequest operation payload custom description) := by
  refine withinAsk trivial fun reply => ?_
  cases reply with
  | none => exact withinDone _
  | some waited => exact withinDone _

theorem productInfoRequestWithin {operation : ProductInfoOperation} {unsupported : Bool} :
    Within connection (productInfoRequest operation unsupported) := by
  refine withinAsk trivial fun reply => ?_
  cases reply with
  | none => exact withinDone _
  | some waited =>
    cases waited with
    | value response => exact withinDone _
    | dropped => exact withinDone _
    | timedOut => cases unsupported <;> exact withinDone _

theorem sendFireWithin {destination : String} {payload : Json} :
    Within connection (sendFire nsConnection destination payload) := by
  refine withinAsk rfl fun reply => ?_
  cases reply with
  | none => exact withinDone _
  | some waited => cases waited <;> exact withinDone _

theorem setVolumeWithin {volume : Json} : Within connection (setVolume volume) :=
  withinAndThen receiverRequestWithin fun _ => withinDone _

theorem productInfoWithin {α : Type} {operation : ProductInfoOperation} {unsupported : Bool} {next : Option Json → Call α}
    (rest : ∀ value, Within connection (next value)) :
    Within connection (connection.requireAuthenticatedProductInfo.andThen fun _ =>
      (productInfoRequest operation unsupported).andThen next) := by
  refine withinAndThen ?_ fun _ => withinAndThen productInfoRequestWithin rest
  unfold requireAuthenticatedProductInfo
  split <;> exact withinDone _

theorem apiWithin {α : Type} {call : Call α} (api : connection.Api fromValue call) : Within connection call := by
  cases api with
  | getDeviceInfo => exact productInfoWithin fun value => (by cases value <;> exact withinDone _)
  | getEurekaInfo => exact productInfoWithin fun value => (by cases value <;> exact withinDone _)
  | getAppAvailability appId => exact withinAndThen receiverRequestWithin fun _ => withinDone _
  | status => exact withinAndThen receiverRequestWithin fun _ => withinDone _
  | setVolumeLevel level =>
    unfold setVolumeLevel
    split
    · exact setVolumeWithin
    · exact withinDone _
  | setMuted muted => exact setVolumeWithin
  | launch appId =>
    refine withinAndThen receiverRequestWithin fun value => withinAndThen (withinDone _) fun status => ?_
    split
    · exact withinDone _
    · exact withinAndThen sendFireWithin fun _ => withinDone _
  | stop app =>
    exact withinAndThen sendFireWithin fun _ => withinAndThen receiverRequestWithin fun _ => withinDone _
  | exchangeOffer offer app =>
    unfold exchangeOffer
    split
    · exact withinDone _
    · rename_i allowed
      refine withinAsk ⟨offer,rfl,allowed⟩ fun reply => ?_
      cases reply <;> exact withinDone _
  | close => exact withinAsk trivial fun _ => withinAsk trivial fun _ => withinDone _

end CastConnection

theorem OfferDocument.audioRead {offer : OfferDocument} (audio : ¬ offer.hasVideo) {index : Nat} {stream : ReceivedStream}
    (read : Chromiacast.readOffered offer.toValue index = some stream) : stream.type = .audio := by
  have streams : offer.toValue.get "supportedStreams" = some (.array (offer.streams.map OfferedStream.toValue)) := rfl
  simp only [Chromiacast.readOffered,Chromiacast.offeredAt,streams,Json.asArray,Option.bind_eq_bind,Option.bind_some]
    at read
  obtain ⟨value,found,read⟩ := Option.bind_eq_some_iff.mp read
  obtain ⟨s,listed,rfl⟩ := List.mem_map.mp (List.mem_of_find?_eq_some found)
  rw [s.readBack] at read
  cases Option.some.inj read
  have kind : s.streamType ≠ .video := by
    intro video
    exact audio (List.any_eq_true.mpr ⟨s,listed,decide_eq_true video⟩)
  cases type : s.streamType with
  | audio => exact type
  | video => exact absurd type kind

section Written
variable {fromStr : String → Except String Json} {connection : CastConnection}

def Outgoing.Allowed (connection : CastConnection) (m : Outgoing) : Prop :=
  m.nameSpace = nsWebrtc → ∃ offer : OfferDocument, m.payload.get "offer" = some offer.toValue ∧
    ¬ (connection.audioOnly ∧ offer.hasVideo)

theorem writtenAllowed {t : Turned} {message : Outgoing} {label : String} {failure : Option String}
    (before : t.written = []) (allowed : message.Allowed connection) :
    ∀ m ∈ (t.write message label failure).written, m.Allowed connection := by
  intro m member
  cases failure with
  | none =>
    simp only [Turned.write,before,List.nil_append,List.mem_singleton] at member
    rw [member]
    exact allowed
  | some error =>
    simp only [Turned.write,before] at member
    cases member

theorem elsewhere {destination nameSpace : String} {payload : Json} (other : nameSpace ≠ nsWebrtc) :
    Outgoing.Allowed connection ⟨destination,nameSpace,payload⟩ := fun same => absurd same other

theorem writeAllSublist (messages : List Outgoing) (failure : Nat → Option String) (k : Nat) :
    (writeAll messages failure k).1.Sublist messages := by
  induction messages generalizing k with
  | nil => exact List.Sublist.refl _
  | cons message rest ih =>
    simp only [writeAll]
    split
    · exact List.nil_sublist _
    · exact (ih _).cons_cons _

theorem shutdownAllowed (s : ControlLoop) (failure : Nat → Option String) :
    ∀ m ∈ (s.onShutdown failure).written, m.Allowed connection := by
  intro m member
  have listed := (writeAllSublist _ _ _).subset member
  rcases List.mem_append.mp listed with app | last
  · obtain ⟨entry,_,inside⟩ := List.mem_flatMap.mp app
    unfold teardownOf at inside
    split at inside
    · cases List.mem_singleton.mp inside
      exact elsewhere (by decide)
    · rcases List.mem_pair.mp inside with rfl | rfl
      · exact elsewhere (by decide)
      · exact elsewhere (by decide)
  · cases List.mem_singleton.mp last
    exact elsewhere (by decide)

theorem turnAllowed {s : ControlLoop} {sender : Nat} {input : ControlInput} {t : Turned}
    (own : ∀ command failure, input = .command command failure → Question.Permitted connection (.command command))
    (turned : s.turn fromStr sender input = some t) : ∀ m ∈ t.written, m.Allowed connection := by
  cases input with
  | message message now failure =>
    cases Option.some.inj turned
    unfold ControlLoop.onMessage
    split
    · simp only [ControlLoop.onHeartbeat]
      split
      · exact writtenAllowed rfl (elsewhere (by decide))
      · intro m member
        cases member
    · split
      · unfold ControlLoop.onClose
        split <;> exact fun m member => (by cases member)
      · split <;> exact fun m member => (by cases member)
  | endOfStream =>
    cases Option.some.inj turned
    exact fun m member => (by cases member)
  | readError error =>
    cases Option.some.inj turned
    exact fun m member => (by cases member)
  | command command failure =>
    have permitted := own command failure rfl
    cases command with
    | receiverRequest operation payload custom =>
      obtain ⟨⟨id,next⟩,_,rest⟩ := Option.bind_eq_some_iff.mp turned
      cases Option.some.inj rest
      exact writtenAllowed rfl (elsewhere (by decide))
    | productInfoRequest operation =>
      obtain ⟨⟨id,next⟩,_,rest⟩ := Option.bind_eq_some_iff.mp turned
      cases Option.some.inj rest
      exact writtenAllowed rfl (elsewhere (by cases operation <;> decide))
    | sendOffer destination value =>
      obtain ⟨⟨id,next⟩,_,rest⟩ := Option.bind_eq_some_iff.mp turned
      cases Option.some.inj rest
      obtain ⟨offer,rfl,within⟩ := permitted
      exact writtenAllowed rfl fun _ => ⟨offer,rfl,within⟩
    | sendFire nameSpace destination payload =>
      cases Option.some.inj turned
      cases permitted
      intro m member
      simp only [ControlLoop.onFire] at member
      split at member
      · cases List.mem_singleton.mp member
        exact elsewhere (by decide)
      · cases member
    | close =>
      cases Option.some.inj turned
      exact shutdownAllowed s failure
  | commandsClosed failure =>
    cases Option.some.inj turned
    exact shutdownAllowed s failure
  | tick now failure =>
    cases Option.some.inj turned
    unfold ControlLoop.onTick
    split
    · exact fun m member => (by cases member)
    · exact writtenAllowed rfl (elsewhere (by decide))

theorem stepAllowed {fromValue : Json → Except String Answer} {w after : ControlRun} {action : ControlAction}
    {out : ControlOutput} (kind : w.StepTaken fromStr action after out)
    (own : ∀ command failure, action = .take (.command command failure) → connection.Issues fromValue command) :
    ∀ m ∈ out.written, m.Allowed connection := by
  cases kind with
  | abandoned sender => exact fun m member => (by cases member)
  | turned input t _ turned =>
    have written : (w.finish t).2.written = t.written := by
      cases exit : t.exit <;> simp only [ControlRun.finish,exit]
    rw [written]
    refine turnAllowed (fun command failure same => ?_) turned
    obtain ⟨α,call,api,asks⟩ := own command failure (congrArg _ same)
    exact CastConnection.apiWithin api _ asks
  | spins input => exact fun m member => (by cases member)
  | ended input _ => exact fun m member => (by cases member)

open ControlRun in
theorem outputAllowed {fromValue : Json → Except String Answer} {now : Nat} {actions : List ControlAction}
    (own : ∀ (i : Nat) command failure, actions[i]? = some (.take (.command command failure)) →
      connection.Issues fromValue command) (i : Nat) :
    ∀ m ∈ (output fromStr now actions i).written, m.Allowed connection := by
  intro m member
  cases taken : actions[i]? with
  | none =>
    rw [output,taken] at member
    cases member
  | some action =>
    rw [output,taken,Option.elim_some] at member
    exact stepAllowed (stepTaken fromStr _ action) (fun command failure same => own i command failure (same ▸ taken)) m member

end Written

section Credential
open Auth ControlRun
variable {Anchor : Type} [DecidableEq Anchor]

theorem connectedPasses {lib : Libraries Anchor} {address : String} {dialled : Dialled} {nonce : Vector UInt8 nonceSize}
    {connection : CastConnection} (connected : connectAddress lib address dialled nonce = .ok connection) :
    ∃ certificate message r verified, dialled.exchange.read = .done (.ok message) ∧ responseIn message = some r ∧
      Passes lib dialled.exchange.clock r nonce certificate verified ∧ connection.audioOnly = verified.audioOnly := by
  unfold connectAddress connectAddressInner at connected
  obtain ⟨_,_,connected⟩ := Outcome.bindOkIff.mp connected
  obtain ⟨certificates,_,connected⟩ := Outcome.bindOkIff.mp connected
  cases certificates with
  | nil => cases connected
  | cons certificate others =>
    obtain ⟨identity,authenticates,connected⟩ := Outcome.bindOkIff.mp connected
    obtain ⟨_,_,connected⟩ := Outcome.bindOkIff.mp connected
    cases Outcome.ok.inj connected
    obtain ⟨device,accepted,known⟩ := Outcome.bindOkIff.mp authenticates
    cases Outcome.ok.inj known
    have verifies : authenticateReceiver lib dialled.exchange nonce certificate = .ok device := by
      cases outcome : authenticateReceiver lib dialled.exchange nonce certificate with
      | ok other =>
        rw [outcome] at accepted
        exact congrArg Outcome.ok (Outcome.ok.inj accepted)
      | err detail =>
        rw [outcome] at accepted
        cases accepted
      | panic =>
        rw [outcome] at accepted
        cases accepted
    obtain ⟨message,r,verified,read,carried,passes,_,audioOnly⟩ := receiverPasses verifies
    exact ⟨certificate,message,r,verified,read,carried,passes,audioOnly⟩

theorem audioOnlyOffers (lib : Libraries Anchor) (address : String) (dialled : Dialled) (nonce : Vector UInt8 nonceSize)
    (connection : CastConnection) (connected : connectAddress lib address dialled nonce = .ok connection)
    (fromStr : String → Except String Json) (fromValue : Json → Except String Answer) (now : Nat)
    (actions : List ControlAction)
    (own : ∀ (i : Nat) command failure, actions[i]? = some (.take (.command command failure)) →
      connection.Issues fromValue command) :
    ∃ certificate message r verified, dialled.exchange.read = .done (.ok message) ∧ responseIn message = some r ∧
      Passes lib dialled.exchange.clock r nonce certificate verified ∧
      ((∃ der ∈ verified.certificates, ∃ cert, parseDeviceCertificate lib der "device credential" = .ok cert ∧
        hasAudioOnlyPolicy cert) →
        ∀ i, ∀ m ∈ (output fromStr now actions i).written, m.nameSpace = nsWebrtc →
          ∃ value, m.payload.get "offer" = some value ∧
            ∀ index stream, readOffered value index = some stream → stream.type = .audio) := by
  obtain ⟨certificate,message,r,verified,read,carried,passes,same⟩ := connectedPasses connected
  refine ⟨certificate,message,r,verified,read,carried,passes,fun restricted i m written webrtc => ?_⟩
  have audioOnly : connection.audioOnly = true := by
    rw [same]
    exact (verifyChainOk passes.chain).audioOnly.mpr restricted
  obtain ⟨offer,found,allowed⟩ := outputAllowed own i m written webrtc
  exact ⟨_,found,fun index stream read => OfferDocument.audioRead (fun video => allowed ⟨audioOnly,video⟩) read⟩

def exampleRestricted : Libraries Bytes :=
  {exampleLibraries with x509 := fun der => .ok ([],⟨⟨der,[1],100⟩,0,der,.ok 2048,.ok none,[some [audioOnlyPolicyOid]]⟩)}

def exampleDialled : Dialled := ⟨.done (.ok ()),.done (.ok [[6]]),exampleExchange,.done (.ok ())⟩

def exampleOffering : List ControlAction :=
  [.take (.command (.sendOffer "t" exampleOfferDocument.toValue) fun _ => none)]

theorem exampleAudioOnly : exampleAudio.build SenderSession.exampleDraws = .ok exampleOfferDocument ∧
    connectAddress exampleRestricted "" exampleDialled exampleNonce = .ok ⟨"",some ⟨[5],true,false⟩⟩ ∧
    ∃ m ∈ (output exampleSessionText 0 exampleOffering 0).written, m.nameSpace = nsWebrtc ∧
      ∃ value stream, m.payload.get "offer" = some value ∧ readOffered value 0 = some stream ∧ stream.type = .audio := by
  have connected : connectAddress exampleRestricted "" exampleDialled exampleNonce =
      .ok ⟨"",some ⟨[5],true,false⟩⟩ := by decide +kernel
  have own : ∀ (i : Nat) command failure, exampleOffering[i]? = some (.take (.command command failure)) →
      CastConnection.Issues ⟨"",some ⟨[5],true,false⟩⟩ exampleFromValue command := by
    intro i command failure taken
    cases i with
    | zero =>
      cases Option.some.inj taken
      exact ⟨Answer,_,.exchangeOffer exampleOfferDocument exampleApp,.inl rfl⟩
    | succ i => cases taken
  obtain ⟨_,message,r,verified,_,_,passes,offers⟩ := audioOnlyOffers exampleRestricted "" exampleDialled exampleNonce _
    connected exampleSessionText exampleFromValue 0 exampleOffering own
  obtain ⟨_,_,chain,_⟩ := (verifyChainOk passes.chain).chain
  have leaf : r.clientAuthCertificate ∈ verified.certificates := by simp [chain]
  have written : (⟨"t",nsWebrtc,.object [("type",.string "OFFER"),("seqNum",.ofU32 1),
      ("offer",exampleOfferDocument.toValue)]⟩ : Outgoing) ∈ (output exampleSessionText 0 exampleOffering 0).written :=
    List.mem_singleton.mpr rfl
  obtain ⟨value,offered,audio⟩ := offers ⟨_,leaf,_,rfl,rfl⟩ 0 _ written rfl
  cases Option.some.inj offered
  exact ⟨rfl,connected,_,written,rfl,_,_,rfl,rfl,audio 0 _ rfl⟩

end Credential

end Chromiacast
