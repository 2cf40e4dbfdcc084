import Chromiacast.Pairing

/-! The order of a pairing exchange, whatever the other side of the stream does: one plan of messages,
each written after the one before was acknowledged. -/
namespace Chromiacast.AndroidTv
open Basis Dialogue

abbrev PairingLog := List (Σ q : PairingQuestion, q.Reply)

def messagesWritten (said : PairingLog) : List PairingEnvelope :=
  said.filterMap fun entry =>
    match entry.1 with
    | .write message _ => some message
    | _ => none

structure Accepted (reply : PairingEnvelope) : Prop where
  status : reply.status = pairingStatusOk
  version : reply.protocolVersion = 1 ∨ reply.protocolVersion = 2

structure Acknowledges (message reply : PairingEnvelope) : Prop extends Accepted reply where
  request : message.pairingRequest.isSome → ∃ name, serverNameOf reply = .ok name
  options : message.options.isSome → ∃ offered, reply.options = some offered ∧ .hexadecimalPin ∈ offered.outputEncodings
  configuration : message.configuration.isSome → reply.configurationAck.isSome
  secret : message.secret.isSome → reply.secretAck.isSome

theorem messagesAppend (a b : PairingLog) : messagesWritten (a ++ b) = messagesWritten a ++ messagesWritten b :=
  List.filterMap_append ..

theorem andThenResult {α β : Type} (peer : Peer PairingQuestion PairingQuestion.Reply) (said : PairingLog)
    (call : PairingCall α) (next : α → PairingCall β) :
    conduct peer said (call.andThen next) =
      match (conduct peer said call).1 with
      | .ok value => conduct peer (conduct peer said call).2 (next value)
      | .err e => (.err e,(conduct peer said call).2)
      | .panic => (.panic,(conduct peer said call).2) := by
  rw [PairingCall.andThen,conductBind]
  cases (conduct peer said call).1 <;> rfl

theorem inTimeOk {α : Type} {operation : String} {reply : Option (Except IoError α)} {value : α} :
    inTime operation reply = .ok value ↔ reply = some (.ok value) := by
  rcases reply with _ | _ | _ <;> simp [inTime]

theorem inTimeReturns {α : Type} (operation : String) (reply : Option (Except IoError α)) :
    inTime operation reply ≠ .panic := by
  rcases reply with _ | _ | _ <;> simp [inTime]

section
variable (decode : Bytes → Except String PairingEnvelope)

def repliesHeard (said : PairingLog) : List PairingEnvelope :=
  said.filterMap fun entry =>
    match entry with
    | ⟨.read _,some (.ok frame)⟩ => (decode frame).toOption
    | _ => none

theorem repliesAppend (a b : PairingLog) :
    repliesHeard decode (a ++ b) = repliesHeard decode a ++ repliesHeard decode b :=
  List.filterMap_append ..

def Acked (said : PairingLog) : Prop := List.Forall₂ Acknowledges (messagesWritten said) (repliesHeard decode said)

def InTurn (said : PairingLog) : Prop :=
  ∃ acked replies last, List.Forall₂ Acknowledges acked replies ∧ replies <+: repliesHeard decode said ∧
    messagesWritten said = acked ++ last ∧ last.length ≤ 1

variable {decode}

theorem Acked.inTurn {said : PairingLog} (acked : Acked decode said) : InTurn decode said :=
  ⟨_,_,[],acked,List.prefix_rfl,(List.append_nil _).symm,Nat.zero_le 1⟩

theorem acceptOk {operation : String} {frame : Bytes} {reply : PairingEnvelope} :
    acceptEnvelope decode operation frame = .ok reply ↔ decode frame = .ok reply ∧ Accepted reply := by
  unfold acceptEnvelope
  cases decoded : decode frame with
  | error e => simp [protocolError]
  | ok message =>
    dsimp only
    constructor
    · intro accepted
      split at accepted <;> try contradiction
      split at accepted <;> try contradiction
      rename_i status version
      cases Outcome.ok.inj accepted
      refine ⟨rfl,not_not.mp status,?_⟩
      simp only [← UInt32.toNat_inj,UInt32.lt_iff_toNat_lt] at version ⊢
      change ¬ (reply.protocolVersion.toNat = 0 ∨ 2 < reply.protocolVersion.toNat) at version
      change reply.protocolVersion.toNat = 1 ∨ reply.protocolVersion.toNat = 2
      omega
    · rintro ⟨same,status,version⟩
      cases Except.ok.inj same
      rw [if_neg (not_not.mpr status)]
      rcases version with one | two
      · simp [one]
      · simp [two]

theorem acceptReturns (operation : String) (frame : Bytes) : acceptEnvelope decode operation frame ≠ .panic := by
  unfold acceptEnvelope protocolError
  split
  · simp
  · split
    · simp
    · split <;> simp

theorem writeEnds (message : PairingEnvelope) (writing : String) (peer : Peer PairingQuestion PairingQuestion.Reply)
    (said : PairingLog) :
    conduct peer said (writePairing message writing) = (.ok (),said ++ [⟨.write message writing,some (.ok ())⟩]) ∨
    ∃ e answer, conduct peer said (writePairing message writing) =
      (.err e,said ++ [⟨.write message writing,answer⟩]) := by
  have wrote : conduct peer said (writePairing message writing) =
      (inTime writing (peer said (.write message writing)),
        said ++ [⟨.write message writing,peer said (.write message writing)⟩]) := rfl
  rw [wrote]
  cases sent : inTime writing (peer said (.write message writing)) with
  | panic => exact absurd sent (inTimeReturns _ _)
  | err e => exact .inr ⟨e,_,rfl⟩
  | ok done =>
    have replied : peer said (.write message writing) = some (.ok ()) := inTimeOk.mp sent
    exact .inl (by rw [replied])

variable (decode) in
theorem readEnds (reading : String) (peer : Peer PairingQuestion PairingQuestion.Reply) (said : PairingLog) :
    (∃ frame reply, conduct peer said (readPairing decode reading) =
        (.ok reply,said ++ [⟨.read reading,some (.ok frame)⟩]) ∧ decode frame = .ok reply ∧ Accepted reply) ∨
    ∃ e answer, conduct peer said (readPairing decode reading) = (.err e,said ++ [⟨.read reading,answer⟩]) := by
  have heard : conduct peer said (readPairing decode reading) =
      (inTime reading (peer said (.read reading)) >>= acceptEnvelope decode reading,
        said ++ [⟨.read reading,peer said (.read reading)⟩]) := rfl
  rw [heard]
  cases got : (inTime reading (peer said (.read reading)) >>= acceptEnvelope decode reading) with
  | panic => exact absurd got (Outcome.bindReturns (inTimeReturns _ _) (acceptReturns reading))
  | err e => exact .inr ⟨e,_,rfl⟩
  | ok reply =>
    obtain ⟨frame,read,accepted⟩ := Outcome.bindOkIff.mp got
    have replied : peer said (.read reading) = some (.ok frame) := inTimeOk.mp read
    exact .inl ⟨frame,reply,by rw [replied],acceptOk.mp accepted⟩

variable (decode) in
theorem turnEnds {α : Type} (message : PairingEnvelope) (writing reading : String)
    {check : PairingEnvelope → Outcome AndroidTvError α} (returns : ∀ reply, check reply ≠ .panic)
    (peer : Peer PairingQuestion PairingQuestion.Reply) (said : PairingLog) :
    (∃ frame reply value, conduct peer said (turn decode message writing reading check) =
        (.ok value,said ++ [⟨.write message writing,some (.ok ())⟩,⟨.read reading,some (.ok frame)⟩]) ∧
      decode frame = .ok reply ∧ Accepted reply ∧ check reply = .ok value) ∨
    (∃ e entries, conduct peer said (turn decode message writing reading check) = (.err e,said ++ entries) ∧
      messagesWritten entries = [message]) := by
  rw [turn,andThenResult]
  rcases writeEnds message writing peer said with wrote | ⟨e,answer,failed⟩
  · rw [wrote]
    dsimp only
    rw [andThenResult]
    rcases readEnds decode reading peer (said ++ [⟨.write message writing,some (.ok ())⟩]) with
      ⟨frame,reply,heard,decoded,accepted⟩ | ⟨e,answer,failed⟩
    · rw [heard,List.append_assoc,List.singleton_append]
      dsimp only [conduct]
      cases passes : check reply with
      | panic => exact absurd passes (returns reply)
      | err e => exact .inr ⟨e,_,rfl,rfl⟩
      | ok value => exact .inl ⟨frame,reply,value,rfl,decoded,accepted,passes⟩
    · rw [failed,List.append_assoc]
      exact .inr ⟨e,_,rfl,rfl⟩
  · rw [failed]
    exact .inr ⟨e,_,rfl,rfl⟩

theorem Acked.turn {said : PairingLog} (acked : Acked decode said) {message reply : PairingEnvelope} {frame : Bytes}
    (writing reading : String) (decoded : decode frame = .ok reply) (suits : Acknowledges message reply) :
    Acked decode (said ++ [⟨.write message writing,some (.ok ())⟩,⟨.read reading,some (.ok frame)⟩]) := by
  rw [Acked,messagesAppend,repliesAppend]
  refine List.rel_append acked ?_
  have heard : repliesHeard decode [⟨.write message writing,some (.ok ())⟩,⟨.read reading,some (.ok frame)⟩] =
      [reply] := by
    simp [repliesHeard,decoded,Except.toOption]
  rw [heard]
  exact .cons suits .nil

variable (decode) in
structure Orderly {α : Type} (call : PairingCall α) (plan : List PairingEnvelope) (post : α → Prop) : Prop where
  returns : ∀ peer said, Acked decode said → (conduct peer said call).1 ≠ .panic
  done : ∀ peer said value, Acked decode said → (conduct peer said call).1 = .ok value →
    post value ∧ Acked decode (conduct peer said call).2 ∧
      messagesWritten (conduct peer said call).2 = messagesWritten said ++ plan
  part : ∀ peer said, Acked decode said → InTurn decode (conduct peer said call).2 ∧
    ∃ some, some <+: plan ∧ messagesWritten (conduct peer said call).2 = messagesWritten said ++ some

namespace Orderly
variable {α β : Type}

theorem result {result : Outcome AndroidTvError α} (returns : result ≠ .panic) :
    Orderly decode (.done result : PairingCall α) [] (result = .ok ·) where
  returns _ _ _ := returns
  done _ _ _ acked same := ⟨same,acked,(List.append_nil _).symm⟩
  part _ _ acked := ⟨acked.inTurn,[],List.prefix_rfl,(List.append_nil _).symm⟩

theorem shutdown : Orderly decode (.ask .shutdown fun _ => .done (.ok ())) [] fun _ : Unit => True := by
  have written (said : PairingLog) (reply : Unit) :
      messagesWritten (said ++ [⟨.shutdown,reply⟩]) = messagesWritten said ++ [] := messagesAppend said _
  have same (said : PairingLog) (reply : Unit) (acked : Acked decode said) :
      Acked decode (said ++ [⟨.shutdown,reply⟩]) := by
    rw [Acked,written,repliesAppend]
    exact List.rel_append acked .nil
  refine ⟨fun _ _ _ => by simp [conduct],fun peer said _ acked _ => ?_,fun peer said acked => ?_⟩
  · exact ⟨trivial,same said _ acked,written said _⟩
  · exact ⟨(same said _ acked).inTurn,[],List.prefix_rfl,written said _⟩

theorem turn (message : PairingEnvelope) (writing reading : String)
    {check : PairingEnvelope → Outcome AndroidTvError α} (returns : ∀ reply, check reply ≠ .panic)
    (suits : ∀ reply value, Accepted reply → check reply = .ok value → Acknowledges message reply) :
    Orderly decode (turn decode message writing reading check) [message] fun _ => True := by
  refine ⟨fun peer said _ => ?_,fun peer said value acked ok => ?_,fun peer said acked => ?_⟩
  · rcases turnEnds decode message writing reading returns peer said with ⟨_,_,_,ends,_⟩ | ⟨_,_,ends,_⟩ <;> simp [ends]
  · rcases turnEnds decode message writing reading returns peer said with
      ⟨frame,reply,_,ends,decoded,accepted,passes⟩ | ⟨_,_,ends,_⟩
    · rw [ends]
      exact ⟨trivial,acked.turn writing reading decoded (suits reply _ accepted passes),messagesAppend said _⟩
    · simp [ends] at ok
  · rcases turnEnds decode message writing reading returns peer said with
      ⟨frame,reply,_,ends,decoded,accepted,passes⟩ | ⟨e,entries,ends,written⟩
    · rw [ends]
      exact ⟨(acked.turn writing reading decoded (suits reply _ accepted passes)).inTurn,[message],List.prefix_rfl,
        messagesAppend said _⟩
    · rw [ends]
      have whole : messagesWritten (said ++ entries) = messagesWritten said ++ [message] := by
        rw [messagesAppend,written]
      refine ⟨⟨_,_,[message],acked,?_,whole,le_rfl⟩,[message],List.prefix_rfl,whole⟩
      rw [repliesAppend]
      exact List.prefix_append _ _

theorem andThen {call : PairingCall α} {next : α → PairingCall β} {first second : List PairingEnvelope}
    {post : α → Prop} {last : β → Prop} (begins : Orderly decode call first post)
    (goes : ∀ value, post value → Orderly decode (next value) second last) :
    Orderly decode (call.andThen next) (first ++ second) last := by
  refine ⟨fun peer said acked => ?_,fun peer said value acked ok => ?_,fun peer said acked => ?_⟩
  · rw [andThenResult]
    cases ends : (conduct peer said call).1 with
    | panic => exact absurd ends (begins.returns peer said acked)
    | err e => simp
    | ok value =>
      obtain ⟨holds,after,_⟩ := begins.done peer said value acked ends
      exact (goes value holds).returns peer _ after
  · rw [andThenResult] at ok ⊢
    cases ends : (conduct peer said call).1 with
    | panic => simp [ends] at ok
    | err e => simp [ends] at ok
    | ok middle =>
      rw [ends] at ok
      obtain ⟨holds,after,written⟩ := begins.done peer said middle acked ends
      obtain ⟨final,all,rest⟩ := (goes middle holds).done peer _ value after ok
      exact ⟨final,all,by rw [rest,written,List.append_assoc]⟩
  · rw [andThenResult]
    cases ends : (conduct peer said call).1 with
    | panic => exact absurd ends (begins.returns peer said acked)
    | err e =>
      obtain ⟨inTurn,some,starts,written⟩ := begins.part peer said acked
      exact ⟨inTurn,some,starts.trans (List.prefix_append _ _),written⟩
    | ok middle =>
      obtain ⟨holds,after,written⟩ := begins.done peer said middle acked ends
      obtain ⟨inTurn,some,starts,rest⟩ := (goes middle holds).part peer _ after
      exact ⟨inTurn,first ++ some,List.prefix_append_right_inj first |>.mpr starts,
        by rw [rest,written,List.append_assoc]⟩

theorem turnThen {message : PairingEnvelope} {writing reading : String}
    {check : PairingEnvelope → Outcome AndroidTvError α} {next : α → PairingCall β} {plan : List PairingEnvelope}
    {last : β → Prop} (returns : ∀ reply, check reply ≠ .panic)
    (suits : ∀ reply value, Accepted reply → check reply = .ok value → Acknowledges message reply)
    (goes : ∀ value, Orderly decode (next value) plan last) :
    Orderly decode ((AndroidTv.turn decode message writing reading check).andThen next) (message::plan) last :=
  (turn message writing reading returns suits).andThen fun value _ => goes value

theorem weaken {call : PairingCall α} {plan : List PairingEnvelope} {post weaker : α → Prop}
    (orderly : Orderly decode call plan post) (implied : ∀ value, post value → weaker value) :
    Orderly decode call plan weaker where
  returns := orderly.returns
  done peer said value acked ok :=
    ⟨implied value (orderly.done peer said value acked ok).1,(orderly.done peer said value acked ok).2⟩
  part := orderly.part

end Orderly

end

theorem serverNameReturns (reply : PairingEnvelope) : serverNameOf reply ≠ .panic := by
  unfold serverNameOf validatePeerName protocolError
  split
  · simp
  · simp
  · split <;> simp

theorem optionsChecked {reply : PairingEnvelope} :
    checkDeviceOptions reply = .ok () ↔
      ∃ offered, reply.options = some offered ∧ .hexadecimalPin ∈ offered.outputEncodings := by
  have pin (encoding : PairingEncoding) : encoding.isHexadecimalPin = true ↔ encoding = .hexadecimalPin := by
    cases encoding
    simp [PairingEncoding.isHexadecimalPin,PairingEncoding.hexadecimalPin]
  unfold checkDeviceOptions
  cases reply.options with
  | none => simp [protocolError]
  | some offered => simp [pin]

theorem requestAcknowledged {clientName : String} {reply : PairingEnvelope} :
    Acknowledges (requestMessage clientName) reply ↔ Accepted reply ∧ ∃ name, serverNameOf reply = .ok name := by
  refine ⟨fun acknowledges => ⟨acknowledges.toAccepted,acknowledges.request rfl⟩,?_⟩
  rintro ⟨accepted,named⟩
  exact ⟨accepted,fun _ => named,by simp [requestMessage,PairingEnvelope.ok],
    by simp [requestMessage,PairingEnvelope.ok],by simp [requestMessage,PairingEnvelope.ok]⟩

theorem optionsAcknowledged {reply : PairingEnvelope} :
    Acknowledges optionsMessage reply ↔ Accepted reply ∧ checkDeviceOptions reply = .ok () := by
  rw [optionsChecked]
  refine ⟨fun acknowledges => ⟨acknowledges.toAccepted,acknowledges.options rfl⟩,?_⟩
  rintro ⟨accepted,offered⟩
  exact ⟨accepted,by simp [optionsMessage,PairingEnvelope.ok],fun _ => offered,
    by simp [optionsMessage,PairingEnvelope.ok],by simp [optionsMessage,PairingEnvelope.ok]⟩

theorem configurationAcknowledged {reply : PairingEnvelope} :
    Acknowledges configurationMessage reply ↔ Accepted reply ∧ checkConfigurationAck reply = .ok () := by
  have checked : checkConfigurationAck reply = .ok () ↔ reply.configurationAck.isSome := by
    unfold checkConfigurationAck protocolError
    split <;> simp_all
  rw [checked]
  refine ⟨fun acknowledges => ⟨acknowledges.toAccepted,acknowledges.configuration rfl⟩,?_⟩
  rintro ⟨accepted,present⟩
  exact ⟨accepted,by simp [configurationMessage,PairingEnvelope.ok],by simp [configurationMessage,PairingEnvelope.ok],
    fun _ => present,by simp [configurationMessage,PairingEnvelope.ok]⟩

theorem secretAcknowledged {secret : Bytes} {reply : PairingEnvelope} :
    Acknowledges (secretMessage secret) reply ↔ Accepted reply ∧ checkSecretAck reply = .ok () := by
  have checked : checkSecretAck reply = .ok () ↔ reply.secretAck.isSome := by
    unfold checkSecretAck protocolError
    split <;> simp_all
  rw [checked]
  refine ⟨fun acknowledges => ⟨acknowledges.toAccepted,acknowledges.secret rfl⟩,?_⟩
  rintro ⟨accepted,present⟩
  exact ⟨accepted,by simp [secretMessage,PairingEnvelope.ok],by simp [secretMessage,PairingEnvelope.ok],
    by simp [secretMessage,PairingEnvelope.ok],fun _ => present⟩

theorem checksReturn (reply : PairingEnvelope) :
    checkDeviceOptions reply ≠ .panic ∧ checkConfigurationAck reply ≠ .panic ∧ checkSecretAck reply ≠ .panic := by
  unfold checkDeviceOptions checkConfigurationAck checkSecretAck protocolError
  refine ⟨?_,by split <;> simp,by split <;> simp⟩
  split
  · simp
  · split <;> simp

section Plan
variable (decode : Bytes → Except String PairingEnvelope) (sha256 : Bytes → Vector UInt8 32)

def opening (clientName : String) : List PairingEnvelope :=
  [requestMessage clientName,optionsMessage,configurationMessage]

def closing (keys : PairingKeys) (pairingCode : String) : List PairingEnvelope :=
  match computePairingSecret sha256 keys pairingCode with
  | .ok secret => [secretMessage secret]
  | _ => []

theorem beginOrderly (keys : PairingKeys) (clientName : String) :
    Orderly decode (beginExchange decode keys clientName) (opening clientName)
      fun exchange => exchange.keys = keys := by
  refine .turnThen serverNameReturns
    (fun reply name accepted passes => requestAcknowledged.mpr ⟨accepted,name,passes⟩) fun serverName => ?_
  refine .turnThen (fun reply => (checksReturn reply).1)
    (fun reply _ accepted passes => optionsAcknowledged.mpr ⟨accepted,passes⟩) fun _ => ?_
  refine .turnThen (fun reply => (checksReturn reply).2.1)
    (fun reply _ accepted passes => configurationAcknowledged.mpr ⟨accepted,passes⟩) fun _ => ?_
  exact (Orderly.result (by simp)).weaken fun exchange same => by cases Outcome.ok.inj same; rfl

theorem finishOrderly (exchange : PairingExchange) (pairingCode : String) :
    Orderly decode (finishExchange decode sha256 exchange pairingCode) (closing sha256 exchange.keys pairingCode)
      fun _ => ∃ secret, computePairingSecret sha256 exchange.keys pairingCode = .ok secret := by
  unfold finishExchange closing
  rcases secretRefused sha256 exchange.keys pairingCode with ⟨secret,computed⟩ | refused
  · rw [computed]
    exact .turnThen (fun reply => (checksReturn reply).2.2)
      (fun reply _ accepted passes => secretAcknowledged.mpr ⟨accepted,passes⟩)
      fun _ => Orderly.shutdown.weaken fun _ _ => ⟨secret,rfl⟩
  · rw [refused]
    exact (Orderly.result (by simp)).weaken fun _ same => by simp at same

theorem pairingOrderly (keys : PairingKeys) (clientName pairingCode : String) :
    Orderly decode (pairing decode sha256 keys clientName pairingCode)
      (opening clientName ++ closing sha256 keys pairingCode)
      fun _ => ∃ secret, computePairingSecret sha256 keys pairingCode = .ok secret :=
  (beginOrderly decode keys clientName).andThen fun exchange same =>
    same ▸ finishOrderly decode sha256 exchange pairingCode

end Plan

end Chromiacast.AndroidTv
