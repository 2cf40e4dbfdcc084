import Chromiacast.PairingTurns

/-! What pairing settles between client and device. The secret fits the code that was shown only if
both have the same keys or SHA-256 collides, and a willing device with the same keys is always paired. -/
namespace Chromiacast.AndroidTv
open Basis Dialogue

section Willing
variable (decode : Bytes → Except String PairingEnvelope)

structure Willing (peer : Peer PairingQuestion PairingQuestion.Reply) : Prop where
  takes : ∀ said message operation, peer said (.write message operation) = some (.ok ())
  replies : ∀ said operation message, (messagesWritten said).getLast? = some message →
    ∃ frame reply, peer said (.read operation) = some (.ok frame) ∧ decode frame = .ok reply ∧
      Acknowledges message reply

variable {decode} {peer : Peer PairingQuestion PairingQuestion.Reply} {α β : Type}

def Succeeds (peer : Peer PairingQuestion PairingQuestion.Reply) (call : PairingCall α) (post : α → Prop) : Prop :=
  ∀ said, ∃ value, (conduct peer said call).1 = .ok value ∧ post value

theorem Willing.turnThen (willing : Willing decode peer) {message : PairingEnvelope} {writing reading : String}
    {check : PairingEnvelope → Outcome AndroidTvError α} {next : α → PairingCall β} {post : β → Prop}
    (passes : ∀ reply, Acknowledges message reply → ∃ value, check reply = .ok value)
    (goes : ∀ value, Succeeds peer (next value) post) :
    Succeeds peer ((turn decode message writing reading check).andThen next) post := by
  intro said
  let after : PairingLog := said ++ [⟨.write message writing,some (.ok ())⟩]
  have last : (messagesWritten after).getLast? = some message := by
    rw [messagesAppend]
    exact List.getLast?_concat
  obtain ⟨frame,reply,read,decoded,acknowledges⟩ := willing.replies after reading message last
  obtain ⟨value,checked⟩ := passes reply acknowledges
  have accepted : acceptEnvelope decode reading frame = .ok reply := acceptOk.mpr ⟨decoded,acknowledges.toAccepted⟩
  have ends : conduct peer said (turn decode message writing reading check) =
      (.ok value,after ++ [⟨.read reading,some (.ok frame)⟩]) := by
    have wrote : conduct peer said (writePairing message writing) = (.ok (),after) := by
      simp only [writePairing,conduct,willing.takes]
      rfl
    have heard : conduct peer after (readPairing decode reading) =
        (.ok reply,after ++ [⟨.read reading,some (.ok frame)⟩]) := by
      simp only [readPairing,conduct,read,inTime,Outcome.okBind,accepted]
    rw [turn,andThenResult,wrote]
    dsimp only
    rw [andThenResult,heard]
    simp only [conduct,checked]
  rw [andThenResult,ends]
  exact goes value _

theorem willingPairs (willing : Willing decode peer) {sha256 : Bytes → Vector UInt8 32} {keys : PairingKeys}
    {clientName pairingCode : String} {secret : Bytes}
    (computed : computePairingSecret sha256 keys pairingCode = .ok secret) :
    (conduct peer [] (pairing decode sha256 keys clientName pairingCode)).1 = .ok () := by
  have begins : Succeeds peer (beginExchange decode keys clientName) fun exchange => exchange.keys = keys := by
    refine willing.turnThen (fun reply fine => (requestAcknowledged.mp fine).2) fun serverName => ?_
    refine willing.turnThen (fun reply fine => ⟨(),(optionsAcknowledged.mp fine).2⟩) fun _ => ?_
    refine willing.turnThen (fun reply fine => ⟨(),(configurationAcknowledged.mp fine).2⟩) fun _ said => ?_
    exact ⟨_,rfl,rfl⟩
  have finishes : Succeeds peer ((turn decode (secretMessage secret) "pairing secret" "pairing-secret acknowledgement"
      checkSecretAck).andThen fun _ => .ask .shutdown fun _ => .done (.ok ())) fun _ : Unit => True :=
    willing.turnThen (fun reply fine => ⟨(),(secretAcknowledged.mp fine).2⟩) fun _ said => ⟨(),rfl,trivial⟩
  obtain ⟨exchange,begun,same⟩ := begins []
  rw [pairing,andThenResult,begun]
  dsimp only
  rw [finishExchange,same,computed]
  obtain ⟨_,finished,_⟩ := finishes (conduct peer [] (beginExchange decode keys clientName)).2
  exact finished

end Willing

theorem pairingInTurn (decode : Bytes → Except String PairingEnvelope) (sha256 : Bytes → Vector UInt8 32)
    (keys : PairingKeys) (clientName pairingCode : String) (peer : Peer PairingQuestion PairingQuestion.Reply) :
    let run := conduct peer [] (pairing decode sha256 keys clientName pairingCode)
    run.1 ≠ .panic ∧ InTurn decode run.2 ∧
      messagesWritten run.2 <+: opening clientName ++ closing sha256 keys pairingCode ∧
      (run.1 = .ok () → Acked decode run.2 ∧ ∃ secret, computePairingSecret sha256 keys pairingCode = .ok secret ∧
        messagesWritten run.2 = opening clientName ++ [secretMessage secret]) ∧
      (Willing decode peer → (run.1 = .ok () ↔ ∃ secret, computePairingSecret sha256 keys pairingCode = .ok secret)) := by
  intro run
  have orderly := pairingOrderly decode sha256 keys clientName pairingCode
  have start : Acked decode [] := List.Forall₂.nil
  obtain ⟨inTurn,some,starts,written⟩ := orderly.part peer [] start
  refine ⟨orderly.returns peer [] start,inTurn,?_,fun ok => ?_,fun willing => ⟨fun ok => ?_,?_⟩⟩
  · exact written ▸ starts
  · obtain ⟨⟨secret,computed⟩,acked,all⟩ := orderly.done peer [] () start ok
    refine ⟨acked,secret,computed,all.trans ?_⟩
    rw [closing,computed]
    rfl
  · exact (orderly.done peer [] () start ok).1
  · rintro ⟨secret,computed⟩
    exact willingPairs willing computed

section Agreement
variable (sha256 : Bytes → Vector UInt8 32)

def secretsWritten (said : PairingLog) : List Bytes :=
  (messagesWritten said).filterMap fun message => message.secret.map PairingSecret.secret

def Shows (keys : PairingKeys) (nonce : Bytes) (pairingCode : String) : Prop :=
  nonce.length = 2 ∧ hexDecode pairingCode.toList = some (checkByte sha256 keys nonce::nonce)

theorem materialParts {a b : PairingKeys} (same : a.material = b.material)
    (clientModulus : a.clientModulus.length = b.clientModulus.length)
    (clientExponent : a.clientExponent.length = b.clientExponent.length)
    (serverModulus : a.serverModulus.length = b.serverModulus.length) : a = b := by
  obtain ⟨am,ae,bm,be⟩ := a
  obtain ⟨cm,ce,dm,de⟩ := b
  simp only [PairingKeys.material,List.append_assoc] at same clientModulus clientExponent serverModulus
  obtain ⟨rfl,behindModulus⟩ := List.append_inj same clientModulus
  obtain ⟨rfl,server⟩ := List.append_inj behindModulus clientExponent
  obtain ⟨rfl,rfl⟩ := List.append_inj server serverModulus
  rfl

theorem shownSecret {mine theirs : PairingKeys} {nonce : Bytes} {pairingCode : String}
    (shown : Shows sha256 theirs nonce pairingCode) {secret : Bytes} :
    computePairingSecret sha256 mine pairingCode = .ok secret ↔
      checkByte sha256 mine nonce = checkByte sha256 theirs nonce ∧
        secret = (sha256 (mine.material ++ nonce)).toList := by
  obtain ⟨two,digits⟩ := shown
  rw [secretComputed]
  constructor
  · rintro ⟨read,_,decoded,rfl⟩
    obtain ⟨check,same⟩ := List.cons.inj (Option.some.inj (decoded.symm.trans digits))
    subst same
    exact ⟨check,rfl⟩
  · rintro ⟨check,rfl⟩
    exact ⟨nonce,two,by rw [digits,check],rfl⟩

theorem secretPlanned {clientName pairingCode : String} {keys : PairingKeys} {said : PairingLog}
    (planned : messagesWritten said <+: opening clientName ++ closing sha256 keys pairingCode) {secret : Bytes}
    (written : secret ∈ secretsWritten said) : computePairingSecret sha256 keys pairingCode = .ok secret := by
  obtain ⟨message,inside,carried⟩ := List.mem_filterMap.mp written
  rcases List.mem_append.mp (planned.subset inside) with early | late
  · rw [opening,List.mem_cons,List.mem_cons,List.mem_singleton] at early
    rcases early with rfl | rfl | rfl <;>
      simp [requestMessage,optionsMessage,configurationMessage,PairingEnvelope.ok] at carried
  · unfold closing at late
    split at late
    · rename_i given computed
      cases List.mem_singleton.mp late
      cases Option.some.inj carried
      exact computed
    · simp at late

theorem pairedSecret {decode : Bytes → Except String PairingEnvelope} {mine theirs : PairingKeys} {nonce : Bytes}
    {clientName pairingCode : String} {peer : Peer PairingQuestion PairingQuestion.Reply}
    (shown : Shows sha256 theirs nonce pairingCode) (same : mine.material = theirs.material)
    (ok : (conduct peer [] (pairing decode sha256 mine clientName pairingCode)).1 = .ok ()) :
    secretsWritten (conduct peer [] (pairing decode sha256 mine clientName pairingCode)).2 =
      [(sha256 (theirs.material ++ nonce)).toList] := by
  have orderly := pairingOrderly decode sha256 mine clientName pairingCode
  obtain ⟨⟨secret,computed⟩,_,written⟩ := orderly.done peer [] () List.Forall₂.nil ok
  rw [closing,computed,((shownSecret sha256 shown).mp computed).2,same] at written
  rw [secretsWritten,written]
  rfl

end Agreement

/- The device has its own view of the keys, the two of them may have someone in between. A secret leaves the client
only if both views give the check byte; it is the one the device expects only if the keys are the same,
byte for byte, or SHA-256 collides. With the same keys the code that was shown is taken. -/
theorem pairingAgreement (decode : Bytes → Except String PairingEnvelope) (sha256 : Bytes → Vector UInt8 32)
    (mine theirs : PairingKeys) (nonce : Bytes) (clientName pairingCode : String)
    (peer : Peer PairingQuestion PairingQuestion.Reply) (shown : Shows sha256 theirs nonce pairingCode) :
    let digest := fun keys : PairingKeys => sha256 (keys.material ++ nonce)
    let run := conduct peer [] (pairing decode sha256 mine clientName pairingCode)
    (∀ secret ∈ secretsWritten run.2, secret = (digest mine).toList ∧
      checkByte sha256 mine nonce = checkByte sha256 theirs nonce) ∧
    ((digest theirs).toList ∈ secretsWritten run.2 →
      (mine.material = theirs.material ∧ (mine.clientModulus.length = theirs.clientModulus.length →
        mine.clientExponent.length = theirs.clientExponent.length →
        mine.serverModulus.length = theirs.serverModulus.length → mine = theirs)) ∨
      (mine.material ++ nonce ≠ theirs.material ++ nonce ∧ digest mine = digest theirs)) ∧
    (mine.material = theirs.material → (Willing decode peer → run.1 = .ok ()) ∧
      (run.1 = .ok () → secretsWritten run.2 = [(digest theirs).toList])) := by
  intro digest run
  have orderly := pairingOrderly decode sha256 mine clientName pairingCode
  have start : Acked decode [] := List.Forall₂.nil
  obtain ⟨_,some,starts,all⟩ := orderly.part peer [] start
  have planned : messagesWritten run.2 <+: opening clientName ++ closing sha256 mine pairingCode := all ▸ starts
  have sent {secret : Bytes} (written : secret ∈ secretsWritten run.2) :=
    (shownSecret sha256 shown).mp (secretPlanned sha256 planned written)
  refine ⟨fun secret written => (sent written).symm,fun written => ?_,
    fun same => ⟨fun willing => ?_,pairedSecret sha256 shown same⟩⟩
  · have equal : digest theirs = digest mine := Vector.toList_inj.mp (sent written).2
    by_cases same : mine.material = theirs.material
    · exact .inl ⟨same,materialParts same⟩
    · exact .inr ⟨fun whole => same (List.append_cancel_right whole),equal.symm⟩
  · exact willingPairs willing ((shownSecret sha256 shown).mpr ⟨by rw [checkByte,same],rfl⟩)

def exampleDevice : Peer PairingQuestion PairingQuestion.Reply := fun _ question =>
  match question with
  | .write _ _ => some (.ok ())
  | .read _ => some (.ok [1])
  | .shutdown => ()

def exampleReply : PairingEnvelope :=
  {PairingEnvelope.ok with
    pairingRequestAck := some ⟨some "Living Room TV"⟩, options := some ⟨[],[.hexadecimalPin],none⟩,
    configurationAck := some ⟨⟩, secretAck := some ⟨[]⟩}

def exampleKeys : PairingKeys := ⟨[0xC0,0xFF],[1,0,1],[0xDE,0xAD],[1,0,1]⟩

def exampleDigest (data : Bytes) : Vector UInt8 32 :=
  Vector.ofFn fun i => data.foldl (fun digest byte => 31*digest+byte) (UInt8.ofNat i)

theorem exampleWilling : Willing (fun _ => .ok exampleReply) exampleDevice := by
  refine ⟨fun _ _ _ => rfl,fun _ _ message _ => ⟨[1],exampleReply,rfl,rfl,⟨rfl,.inr rfl⟩,?_,?_,?_,?_⟩⟩
  · exact fun _ => ⟨some "Living Room TV",by decide⟩
  · exact fun _ => ⟨_,rfl,by simp⟩
  · exact fun _ => rfl
  · exact fun _ => rfl

theorem exampleShown : Shows exampleDigest exampleKeys [0xAB,0xCD] "12abCD" := ⟨rfl,by decide⟩

theorem examplePaired :
    let run := conduct exampleDevice [] (pairing (fun _ => .ok exampleReply) exampleDigest exampleKeys "Pronk" "12abCD")
    run.1 = .ok () ∧ secretsWritten run.2 = [(exampleDigest (exampleKeys.material ++ [0xAB,0xCD])).toList] := by
  obtain ⟨_,_,same⟩ := pairingAgreement (fun _ => .ok exampleReply) exampleDigest exampleKeys
    exampleKeys [0xAB,0xCD] "Pronk" "12abCD" exampleDevice exampleShown
  obtain ⟨completes,secret⟩ := same rfl
  exact ⟨completes exampleWilling,secret (completes exampleWilling)⟩

/- Nothing is written before the name and the device's certificate have passed. Then a willing device is
paired by the numbers of its certificate, whatever zeros stand before them there. -/
theorem sessionPaired {Certificate PrivateKey : Type} (decode : Bytes → Except String PairingEnvelope)
    (sha256 : Bytes → Vector UInt8 32) (parsers : KeyParsers Certificate PrivateKey)
    (connect : Outcome AndroidTvError Bytes) (identity : AndroidTvRemoteIdentity) (clientName pairingCode : String)
    (peer : Peer PairingQuestion PairingQuestion.Reply) :
    let run := conduct peer [] (pairingSession decode sha256 parsers connect identity clientName pairingCode)
    (run.2 ≠ [] ∨ run.1 = .ok () → validateClientName clientName = .ok () ∧
      ∃ certificate n e, connect = .ok certificate ∧ HoldsKey parsers certificate n e) ∧
    ∀ certificate n e nonce, validateClientName clientName = .ok () → connect = .ok certificate →
      HoldsKey parsers certificate n e →
      let keys : PairingKeys := ⟨identity.modulus,identity.exponent,toBytesBe n,toBytesBe e⟩
      Shows sha256 keys nonce pairingCode → Willing decode peer →
        run.1 = .ok () ∧ secretsWritten run.2 = [(sha256 (keys.material ++ nonce)).toList] := by
  intro run
  constructor
  · intro active
    by_contra refused
    obtain ⟨result,ended,failed⟩ := addressRefused decode identity refused
    have stopped : run.2 = [] ∧ run.1 ≠ .ok () := by
      simp only [run,pairingSession,ended,andThenResult,conduct]
      cases result with
      | ok exchange => exact absurd rfl (failed exchange)
      | err e => simp
      | panic => simp
    exact active.elim (fun some => some stopped.1) stopped.2
  · intro certificate n e nonce named connected holds keys shown willing
    have same : pairingSession decode sha256 parsers connect identity clientName pairingCode =
        pairing decode sha256 keys clientName pairingCode := by
      rw [pairingSession,connected,addressBegun decode identity named holds,pairing]
    have paired : (conduct peer [] (pairing decode sha256 keys clientName pairingCode)).1 = .ok () :=
      willingPairs willing ((shownSecret sha256 shown).mpr ⟨rfl,rfl⟩)
    simp only [run,same]
    exact ⟨paired,pairedSecret sha256 shown rfl paired⟩

/- The certificate writes its modulus with a zero before it. -/
def exampleParsers : KeyParsers Unit Unit where
  certificate _ := .ok ([],())
  publicKey _ := .ok (.rsa [0,0xDE,0xAD] [1,0,1])
  privateKey _ := .ok ()
  validate _ := .ok ()
  n _ := 0xC0FF
  e _ := 65537

def exampleIdentity : AndroidTvRemoteIdentity := ⟨[0x30],[0x30],[0xC0,0xFF],[1,0,1]⟩

theorem exampleSessionPaired :
    let run := conduct exampleDevice [] (pairingSession (fun _ => .ok exampleReply) exampleDigest exampleParsers
      (.ok [0x30]) exampleIdentity "Pronk" "12abCD")
    run.1 = .ok () ∧ secretsWritten run.2 = [(exampleDigest (exampleKeys.material ++ [0xAB,0xCD])).toList] := by
  have holds : HoldsKey exampleParsers [0x30] 0xDEAD 65537 :=
    ⟨by decide,by decide,by decide,by decide,(),[0,0xDE,0xAD],[1,0,1],rfl,rfl,by decide,by decide⟩
  exact (sessionPaired (fun _ => .ok exampleReply) exampleDigest exampleParsers (.ok [0x30]) exampleIdentity "Pronk"
    "12abCD" exampleDevice).2 [0x30] 0xDEAD 65537 [0xAB,0xCD] (by decide) rfl holds exampleShown exampleWilling

end Chromiacast.AndroidTv
