import Chromiacast.Basis.Challenge
import Chromiacast.ControlMessages
import Chromiacast.DeviceCredential

/-! Agreement between senders and receivers on the TLS connection between them. Replies may come
from anywhere; a signature that verifies under an honest key stems from a receiver that holds it
and signed the nonce it was asked together with the certificate of its own end. -/
namespace Chromiacast
open Basis

namespace Auth

def nsDeviceAuth : String := "urn:x-cast:com.google.cast.tp.deviceauth"

inductive Timed (α : Type) where
  | elapsed
  | done (result : Except String α)

def Timed.orFail {α : Type} (late error : String) : Timed α → Outcome String α
  | elapsed => .err late
  | done result => failing error result

def challengeMessage (challenge : AuthChallenge) : CastMessage :=
  ⟨senderId,receiverId,nsDeviceAuth,.binary challenge.payload⟩

structure Exchange where
  write : CastMessage → Timed Unit
  read : Timed CastMessage
  clock : Clock

section
variable {Anchor : Type} [DecidableEq Anchor] (lib : Libraries Anchor)

def authenticateReceiver (exchange : Exchange) (nonce : Vector UInt8 nonceSize) (tlsPeerCertificate : Bytes) :
    Outcome String DeviceIdentity := do
  let _ ← (exchange.write (challengeMessage (createChallenge nonce))).orFail "send challenge timed out"
    "send authentication challenge: "
  let message ← exchange.read.orFail "challenge response timed out" "read challenge response: "
  if message.nameSpace ≠ nsDeviceAuth ∨ message.sourceId ≠ receiverId ∨ message.destinationId ≠ senderId then
    .err ("unexpected challenge response namespace or route: " ++ message.nameSpace ++ " " ++ message.sourceId ++
      " -> " ++ message.destinationId)
  else match message.payload with
    | .string _ => .err "challenge response was not a binary protobuf"
    | .binary payload => verifyChallengeReply lib exchange.clock payload nonce tlsPeerCertificate

def responseIn (message : CastMessage) : Option AuthResponse :=
  match message.payload with
  | .string _ => none
  | .binary payload =>
    match parseDeviceAuthMessage payload with
    | .ok response => some response
    | _ => none

def credentialKey (response : AuthResponse) : Option Bytes :=
  match parseDeviceCertificate lib response.clientAuthCertificate "device credential" with
  | .ok cert => some cert.subjectPublicKey
  | _ => none

structure Answer where
  key : Bytes
  nonce : Vector UInt8 nonceSize
  certificate : Bytes
  deriving DecidableEq, Repr

def Answer.input (a : Answer) : Bytes := authSignatureInput a.nonce.toList a.certificate

/- One connection of a sender; `opened` counts the answers made before. -/
structure Attempt where
  nonce : Vector UInt8 nonceSize
  tlsPeerCertificate : Bytes
  opened : Nat
  exchange : Option Exchange

def Attempt.identity (a : Attempt) : Option DeviceIdentity :=
  a.exchange.bind fun exchange =>
    match authenticateReceiver lib exchange a.nonce a.tlsPeerCertificate with
    | .ok identity => some identity
    | _ => none

structure Network where
  attempts : List Attempt
  answers : List Answer

/- No signature of an honest key is made but by an answer. -/
def Unforged (honest : Bytes → Prop) (answers : List Answer) (exchange : Exchange) : Prop :=
  ∀ message response, exchange.read = .done (.ok message) → responseIn message = some response →
    ∀ algorithm key input, honest key → lib.verify algorithm key input response.signature →
      ∃ a ∈ answers, a.key = key ∧ a.input = input

/- A nonce is drawn at random: no receiver has signed it before. -/
inductive Network.Step (honest : Bytes → Prop) (n : Network) : Network → Prop where
  | connect (nonce : Vector UInt8 nonceSize) (tlsPeerCertificate : Bytes)
      (unasked : ∀ a ∈ n.answers, a.nonce ≠ nonce) :
      Step honest n {n with attempts := n.attempts ++ [⟨nonce,tlsPeerCertificate,n.answers.length,none⟩]}
  | answer (a : Answer) : Step honest n {n with answers := n.answers ++ [a]}
  | exchange (i : Nat) (a : Attempt) (e : Exchange) (at' : n.attempts[i]? = some a) (waiting : a.exchange = none)
      (unforged : Unforged lib honest n.answers e) :
      Step honest n {n with attempts := n.attempts.set i {a with exchange := some e}}

end

theorem inputBinds : Function.Injective2 fun (nonce : Vector UInt8 nonceSize) certificate =>
    authSignatureInput nonce.toList certificate := by
  intro nonce nonce' certificate certificate' same
  obtain ⟨front,back⟩ := List.append_inj same (by rw [Vector.length_toList,Vector.length_toList])
  exact ⟨Vector.toList_inj.mp front,back⟩

example : authSignatureInput [1] [2,3] = authSignatureInput [1,2] [3] := rfl

section
variable {Anchor : Type} [DecidableEq Anchor] {lib : Libraries Anchor}

theorem receiverPasses {exchange : Exchange} {nonce : Vector UInt8 nonceSize} {tlsPeerCertificate : Bytes}
    {identity : DeviceIdentity}
    (accepted : authenticateReceiver lib exchange nonce tlsPeerCertificate = .ok identity) :
    ∃ message r verified, exchange.read = .done (.ok message) ∧ responseIn message = some r ∧
      Passes lib exchange.clock r nonce tlsPeerCertificate verified ∧
      identity.certificateSha256 = lib.sha256 r.clientAuthCertificate ∧ identity.audioOnly = verified.audioOnly := by
  unfold authenticateReceiver at accepted
  obtain ⟨_,_,accepted⟩ := Outcome.bindOkIff.mp accepted
  obtain ⟨message,read,accepted⟩ := Outcome.bindOkIff.mp accepted
  split at accepted
  · simp at accepted
  · split at accepted
    · simp at accepted
    · rename_i payload carried
      obtain ⟨r,verified,parsed,passes,_,identified⟩ := replyPasses accepted
      refine ⟨message,r,verified,?_,by simp only [responseIn,carried,parsed],passes,identified⟩
      cases reading : exchange.read with
      | elapsed => simp [reading,Timed.orFail] at read
      | done result =>
        rw [reading,Timed.orFail] at read
        rw [failingOk read]

theorem Passes.key {clock : Clock} {r : AuthResponse} {nonce : Vector UInt8 nonceSize} {certificate : Bytes}
    {verified : VerifiedCredential} (passes : Passes lib clock r nonce certificate verified) :
    ∃ cert, parseDeviceCertificate lib r.clientAuthCertificate "device credential" = .ok cert ∧
      verified.leafPublicKey = cert.subjectPublicKey ∧ credentialKey lib r = some cert.subjectPublicKey := by
  obtain ⟨cert,parsed,same,_⟩ := (verifyChainOk passes.chain).signer
  exact ⟨cert,parsed,same,by simp only [credentialKey,parsed]⟩

end

section
variable {Anchor : Type} [DecidableEq Anchor] (lib : Libraries Anchor)

def Attempt.key (a : Attempt) : Option Bytes :=
  (a.identity lib).bind fun _ => a.exchange.bind fun exchange =>
    match exchange.read with
    | .done (.ok message) => (responseIn message).bind (credentialKey lib)
    | _ => none

def Attempt.view (a : Attempt) : Challenge.Session Bytes (Vector UInt8 nonceSize) Bytes :=
  ⟨a.nonce,a.tlsPeerCertificate,a.opened,a.key lib⟩

def Answer.view (a : Answer) : Challenge.Answer Bytes (Vector UInt8 nonceSize) Bytes := ⟨a.key,a.nonce,a.certificate⟩

def Network.view (n : Network) : Challenge.State Bytes (Vector UInt8 nonceSize) Bytes :=
  ⟨n.attempts.map (Attempt.view lib),n.answers.map Answer.view⟩

end

section
variable {Anchor : Type} [DecidableEq Anchor] {lib : Libraries Anchor}

theorem Attempt.accepted {a : Attempt} {identity : DeviceIdentity} (holds : a.identity lib = some identity) :
    ∃ exchange message r verified, a.exchange = some exchange ∧
      exchange.read = .done (.ok message) ∧ responseIn message = some r ∧
      Passes lib exchange.clock r a.nonce a.tlsPeerCertificate verified ∧
      identity.certificateSha256 = lib.sha256 r.clientAuthCertificate ∧ a.key lib = credentialKey lib r := by
  obtain ⟨exchange,made,result⟩ := Option.bind_eq_some_iff.mp holds
  split at result
  · rename_i other accepted
    cases Option.some.inj result
    obtain ⟨message,r,verified,read,carried,passes,fingerprint,_⟩ := receiverPasses accepted
    refine ⟨exchange,message,r,verified,made,read,carried,passes,fingerprint,?_⟩
    simp only [Attempt.key,holds,made,Option.bind_some,read,carried]
  · simp at result

theorem Attempt.keyIdentity {a : Attempt} {key : Bytes} (accepted : a.key lib = some key) :
    ∃ identity, a.identity lib = some identity := by
  obtain ⟨identity,holds,_⟩ := Option.bind_eq_some_iff.mp accepted
  exact ⟨identity,holds⟩

theorem Unforged.signed {honest : Bytes → Prop} {answers : List Answer} {a : Attempt} {exchange : Exchange}
    (unforged : Unforged lib honest answers exchange) (made : a.exchange = some exchange) {key : Bytes}
    (accepted : a.key lib = some key) (honestly : honest key) :
    ∃ answer ∈ answers, answer.key = key ∧ answer.input = authSignatureInput a.nonce.toList a.tlsPeerCertificate := by
  obtain ⟨identity,holds⟩ := Attempt.keyIdentity accepted
  obtain ⟨other,message,r,verified,made',read,carried,passes,_,same⟩ := Attempt.accepted holds
  cases Option.some.inj (made.symm.trans made')
  obtain ⟨cert,_,leaf,key'⟩ := passes.key
  rw [same,key'] at accepted
  cases Option.some.inj accepted
  obtain ⟨algorithm,verifies⟩ := passes.verifies
  exact unforged message r read carried algorithm _ _ honestly (by rw [← leaf]; exact verifies)

theorem Network.Step.simulates {honest : Bytes → Prop} {n m : Network} (step : Network.Step lib honest n m) :
    Challenge.Step honest (fun nonce certificate => authSignatureInput nonce.toList certificate) (n.view lib) (m.view lib) ∨
      m.view lib = n.view lib := by
  cases step with
  | connect nonce certificate unasked =>
    left
    have target : Network.view lib {n with attempts := n.attempts ++ [⟨nonce,certificate,n.answers.length,none⟩]} =
        {n.view lib with sessions := (n.view lib).sessions ++ [⟨nonce,certificate,(n.view lib).answers.length,none⟩]} := by
      simp [Network.view,Attempt.view,Attempt.key,Attempt.identity]
    rw [target]
    refine .opens nonce certificate fun answer member => ?_
    obtain ⟨a,inside,rfl⟩ := List.mem_map.mp member
    exact unasked a inside
  | answer a =>
    left
    have target : Network.view lib {n with answers := n.answers ++ [a]} =
        {n.view lib with answers := (n.view lib).answers ++ [a.view]} := by
      simp [Network.view]
    rw [target]
    exact .answers a.view
  | exchange i a e at' waiting unforged =>
    have seen : (n.view lib).sessions[i]? = some (a.view lib) := by
      simp [Network.view,at']
    have target : Network.view lib {n with attempts := n.attempts.set i {a with exchange := some e}} =
        {n.view lib with sessions := (n.view lib).sessions.set i (Attempt.view lib {a with exchange := some e})} := by
      simp [Network.view,List.map_set]
    rw [target]
    cases accepted : Attempt.key lib {a with exchange := some e} with
    | none =>
      right
      have same : Attempt.view lib {a with exchange := some e} = a.view lib := by
        have before : a.key lib = none := by simp [Attempt.key,Attempt.identity,waiting]
        simp only [Attempt.view,accepted,before]
      rw [same]
      have kept : (n.view lib).sessions.set i (a.view lib) = (n.view lib).sessions := by
        obtain ⟨inside,here⟩ := List.getElem?_eq_some_iff.mp seen
        rw [← here,List.set_getElem_self]
      rw [kept]
    | some key =>
      left
      have same : Attempt.view lib {a with exchange := some e} = {a.view lib with accepted := some key} := by
        simp only [Attempt.view,accepted]
      rw [same]
      refine .accepts i (a.view lib) key seen fun honestly => ?_
      obtain ⟨answer,inside,owner,input⟩ := unforged.signed rfl accepted honestly
      exact ⟨answer.view,List.mem_map_of_mem inside,owner,input⟩

theorem Network.sound {honest : Bytes → Prop} {n : Network}
    (reached : Relation.ReflTransGen (Network.Step lib honest) ⟨[],[]⟩ n) : Challenge.Sound honest (n.view lib) := by
  induction reached with
  | refl => exact Challenge.emptySound honest
  | tail _ step ih =>
    rcases step.simulates with moved | same
    · exact ih.step inputBinds moved
    · rw [same]
      exact ih

theorem deviceAgreement (honest : Bytes → Prop) (n : Network)
    (reached : Relation.ReflTransGen (Network.Step lib honest) ⟨[],[]⟩ n) :
    ∀ a ∈ n.attempts, ∀ identity, a.identity lib = some identity → ∃ credential cert,
      identity.certificateSha256 = lib.sha256 credential ∧
      parseDeviceCertificate lib credential "device credential" = .ok cert ∧
      (honest cert.subjectPublicKey → ∃ j answer, a.opened ≤ j ∧ n.answers[j]? = some answer ∧
        answer.key = cert.subjectPublicKey ∧ answer.nonce = a.nonce ∧ answer.certificate = a.tlsPeerCertificate) := by
  have sound := Network.sound reached
  intro a member identity holds
  obtain ⟨_,_,r,_,_,_,_,passes,fingerprint,key⟩ := Attempt.accepted holds
  obtain ⟨cert,parsed,_,leaf⟩ := passes.key
  refine ⟨r.clientAuthCertificate,cert,fingerprint,parsed,fun honestly => ?_⟩
  obtain ⟨j,answer,recent,at',owner,nonce,context⟩ := sound.answered (List.mem_map_of_mem member)
    (key.trans leaf) honestly
  rw [Network.view,List.getElem?_map,Option.map_eq_some_iff] at at'
  obtain ⟨original,here,rfl⟩ := at'
  exact ⟨j,original,recent,here,owner,nonce,context⟩

end

def exampleExchange : Exchange :=
  ⟨fun _ => .done (.ok ()),.done (.ok ⟨receiverId,senderId,nsDeviceAuth,.binary exampleReply.encode⟩),
    exampleClock⟩

def exampleNetwork : Network :=
  ⟨[⟨exampleNonce,[6],0,some exampleExchange⟩],[⟨[5],exampleNonce,[6]⟩]⟩

theorem exampleReplyRead :
    responseIn ⟨receiverId,senderId,nsDeviceAuth,.binary exampleReply.encode⟩ = some exampleReply := by
  simp only [responseIn,AuthResponse.decoded (show (exampleReply.fields.flatMap encodeValue).length < 2^64 by decide)]

theorem exampleReached :
    Relation.ReflTransGen (Network.Step exampleLibraries (· = [5])) ⟨[],[]⟩ exampleNetwork := by
  have unforged : Unforged exampleLibraries (· = [5]) [⟨[5],exampleNonce,[6]⟩] exampleExchange := by
    intro message response read carried algorithm key input honestly verified
    cases read
    rw [exampleReplyRead] at carried
    cases Option.some.inj carried
    subst honestly
    have signature : [5] ++ authSignatureInput exampleNonce.toList [6] = [5] ++ input := of_decide_eq_true verified
    exact ⟨_,List.mem_singleton_self _,rfl,List.append_cancel_left signature⟩
  have connected : Network.Step exampleLibraries (· = [5]) ⟨[],[]⟩ ⟨[⟨exampleNonce,[6],0,none⟩],[]⟩ :=
    .connect exampleNonce [6] (by simp)
  have answered : Network.Step exampleLibraries (· = [5]) ⟨[⟨exampleNonce,[6],0,none⟩],[]⟩
      ⟨[⟨exampleNonce,[6],0,none⟩],[⟨[5],exampleNonce,[6]⟩]⟩ := .answer ⟨[5],exampleNonce,[6]⟩
  have exchanged : Network.Step exampleLibraries (· = [5]) ⟨[⟨exampleNonce,[6],0,none⟩],[⟨[5],exampleNonce,[6]⟩]⟩
      exampleNetwork := .exchange 0 ⟨exampleNonce,[6],0,none⟩ exampleExchange rfl rfl unforged
  exact ((Relation.ReflTransGen.single connected).tail answered).tail exchanged

theorem exampleIdentity : Attempt.identity exampleLibraries ⟨exampleNonce,[6],0,some exampleExchange⟩ =
    some ⟨[5],false,false⟩ := by
  decide +kernel

theorem exampleAgreed : ∃ credential cert, [5] = id credential ∧
    parseDeviceCertificate exampleLibraries credential "device credential" = .ok cert ∧
    (cert.subjectPublicKey = [5] → ∃ j answer, 0 ≤ j ∧ exampleNetwork.answers[j]? = some answer ∧
      answer.key = cert.subjectPublicKey ∧ answer.nonce = exampleNonce ∧ answer.certificate = [6]) :=
  deviceAgreement (· = [5]) exampleNetwork exampleReached _ (List.mem_singleton_self _) _ exampleIdentity

end Auth
end Chromiacast
