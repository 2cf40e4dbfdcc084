import Chromiacast.Basis.Machine

/-! The handshake of the Android TV remote service. Three stages each wait for one
field among at most 32 messages; whatever else a message carries is handled on the
way. The messages are those the framed reader delivers and the decoder accepts. -/
namespace Chromiacast.AndroidTv

structure RemoteDeviceInfo where
  model : String
  vendor : String
  unknownOne : Int32
  unknownTwo : String
  packageName : String
  appVersion : String
  deriving DecidableEq, Repr

structure RemoteConfigure where
  features : Int32
  deviceInfo : Option RemoteDeviceInfo
  deriving DecidableEq, Repr

structure RemoteSetActive where
  features : Int32
  deriving DecidableEq, Repr

structure RemoteError where
  value : Bool
  deriving DecidableEq, Repr

structure RemotePingRequest where
  value : Int32
  auxiliaryValue : Int32
  deriving DecidableEq, Repr

structure RemotePingResponse where
  value : Int32
  deriving DecidableEq, Repr

structure RemoteKeyInject where
  keyCode : Int32
  direction : Int32
  deriving DecidableEq, Repr

structure RemoteStart where
  poweredOn : Bool
  deriving DecidableEq, Repr

structure RemoteVolume where
  maximum : UInt32
  level : UInt32
  muted : Bool
  deriving DecidableEq, Repr

structure RemoteMessage where
  configure : Option RemoteConfigure := none
  setActive : Option RemoteSetActive := none
  error : Option RemoteError := none
  pingRequest : Option RemotePingRequest := none
  pingResponse : Option RemotePingResponse := none
  keyInject : Option RemoteKeyInject := none
  start : Option RemoteStart := none
  volume : Option RemoteVolume := none
  deriving DecidableEq, Repr

structure AndroidTvRemoteClientInfo where
  model : String
  vendor : String
  packageName : String
  appVersion : String
  deriving DecidableEq, Repr

structure AndroidTvDeviceInfo where
  model : String
  vendor : String
  serviceVersion : String
  deriving DecidableEq, Repr

structure AndroidTvVolume where
  level : UInt32
  maximum : UInt32
  muted : Bool
  deriving DecidableEq, Repr

def feature (bit : UInt32) : UInt32 := 1 <<< bit

/- PING, KEY, POWER and VOLUME. -/
def implementedFeatures : UInt32 := feature 0 ||| feature 1 ||| feature 5 ||| feature 6

def maxHandshakeMessages : Nat := 32
def maxDeviceTextBytes : Nat := 256

def isControl (c : Char) : Bool := c.toNat < 0x20 || (0x7F ≤ c.toNat && c.toNat ≤ 0x9F)

def deviceTextInvalid (value : String) : Bool :=
  value.utf8ByteSize > maxDeviceTextBytes || value.toList.any isControl

def validatedDeviceInfo (info : RemoteDeviceInfo) : Except String AndroidTvDeviceInfo :=
  match [("model",info.model),("vendor",info.vendor),("service version",info.appVersion)].find?
      (fun field => deviceTextInvalid field.2) with
  | some (field,_) => .error ("device " ++ field ++ " is invalid")
  | none => .ok ⟨info.model,info.vendor,info.appVersion⟩

def validatedVolume (volume : RemoteVolume) : Except String AndroidTvVolume :=
  if volume.maximum = 0 ∨ volume.level > volume.maximum then .error "device volume state is invalid"
  else .ok ⟨volume.level,volume.maximum,volume.muted⟩

def answerPing (value : Int32) : RemoteMessage := {pingResponse := some ⟨value⟩}

def RemoteMessage.refused (m : RemoteMessage) : Bool := m.error.any RemoteError.value

inductive Progress (α : Type) where
  | done (value : α)
  | failed (error : String)
  | waiting
  deriving DecidableEq, Repr

structure Reading (α : Type) where
  progress : Progress α
  volume : Option AndroidTvVolume
  written : List RemoteMessage
  rest : List RemoteMessage
  deriving DecidableEq, Repr

def Reading.andThen {α β : Type} (r : Reading α)
    (next : α → Option AndroidTvVolume → List RemoteMessage → Reading β) : Reading β :=
  match r.progress with
  | .failed error => ⟨.failed error,r.volume,r.written,r.rest⟩
  | .waiting => ⟨.waiting,r.volume,r.written,r.rest⟩
  | .done value =>
    let after := next value r.volume r.rest
    {after with written := r.written ++ after.written}

section Wait
variable {α : Type} (select : RemoteMessage → Option α) (expected : String)

def waitForHandshakeMessage : Nat → Option AndroidTvVolume → List RemoteMessage → Reading α
  | 0,volume,messages => ⟨.failed ("too many messages while waiting for " ++ expected),volume,[],messages⟩
  | _+1,volume,[] => ⟨.waiting,volume,[],[]⟩
  | left+1,volume,message::rest =>
    if message.refused then
      ⟨.failed ("device returned an error while waiting for " ++ expected),volume,[],rest⟩
    else
      let written := (message.pingRequest.map fun request => answerPing request.value).toList
      match message.volume.map validatedVolume with
      | some (.error e) => ⟨.failed e,volume,written,rest⟩
      | reported =>
        let volume := match reported with
          | some (.ok v) => some v
          | _ => volume
        match select message with
        | some value => ⟨.done value,volume,written,rest⟩
        | none =>
          let next := waitForHandshakeMessage left volume rest
          {next with written := written ++ next.written}

end Wait

structure HandshakeResult where
  deviceInfo : AndroidTvDeviceInfo
  features : UInt32
  poweredOn : Bool
  volume : Option AndroidTvVolume
  deriving DecidableEq, Repr

def Reading.write {α : Type} (message : RemoteMessage) (r : Reading α) : Reading α :=
  {r with written := message::r.written}

def startStage (deviceInfo : AndroidTvDeviceInfo) (features : UInt32) (volume : Option AndroidTvVolume)
    (messages : List RemoteMessage) : Reading HandshakeResult :=
  (waitForHandshakeMessage RemoteMessage.start "remote-start notification" maxHandshakeMessages volume
    messages).andThen fun start volume rest => ⟨.done ⟨deviceInfo,features,start.poweredOn,volume⟩,volume,[],rest⟩

def setActiveStage (deviceInfo : AndroidTvDeviceInfo) (features : UInt32) (volume : Option AndroidTvVolume)
    (messages : List RemoteMessage) : Reading HandshakeResult :=
  (waitForHandshakeMessage RemoteMessage.setActive "set-active request" maxHandshakeMessages volume
    messages).andThen fun _ volume rest =>
      (startStage deviceInfo features volume rest).write {setActive := some ⟨features.toInt32⟩}

def performHandshake (clientInfo : AndroidTvRemoteClientInfo) (messages : List RemoteMessage) :
    Reading HandshakeResult :=
  (waitForHandshakeMessage RemoteMessage.configure "configuration" maxHandshakeMessages none
    messages).andThen fun configure volume rest =>
      let features := configure.features.toUInt32 &&& implementedFeatures
      match configure.deviceInfo with
      | none => ⟨.failed "RemoteConfigure omitted device information",volume,[],rest⟩
      | some info =>
        match validatedDeviceInfo info with
        | .error e => ⟨.failed e,volume,[],rest⟩
        | .ok deviceInfo =>
          (setActiveStage deviceInfo features volume rest).write
            {configure := some ⟨features.toInt32,some ⟨clientInfo.model,clientInfo.vendor,1,"1",
              clientInfo.packageName,clientInfo.appVersion⟩⟩}

namespace RemoteMessage

def reportedVolume (m : RemoteMessage) : Option AndroidTvVolume :=
  m.volume.bind fun v => (validatedVolume v).toOption

structure Clean (m : RemoteMessage) : Prop where
  heeded : m.refused = false
  valid : ∀ v, m.volume = some v → ∃ w, validatedVolume v = .ok w

theorem met (m : RemoteMessage) :
    m.refused = true ∨
      (m.refused = false ∧ m.reportedVolume = none ∧ ∃ v e, m.volume = some v ∧ validatedVolume v = .error e) ∨
      m.Clean := by
  cases refused : m.refused with
  | true => exact .inl rfl
  | false =>
    cases carried : m.volume with
    | none => exact .inr (.inr ⟨refused,by simp [carried]⟩)
    | some v =>
      cases checked : validatedVolume v with
      | error e =>
        refine .inr (.inl ⟨rfl,?_,v,e,rfl,checked⟩)
        simp [reportedVolume,carried,checked,Except.toOption]
      | ok w => exact .inr (.inr ⟨refused,by simp [carried,checked]⟩)

def heeded (messages : List RemoteMessage) : List RemoteMessage := messages.filter fun m => !m.refused

end RemoteMessage

open RemoteMessage

def lastVolume (volume : Option AndroidTvVolume) (messages : List RemoteMessage) : Option AndroidTvVolume :=
  ((heeded messages).filterMap reportedVolume).getLast?.or volume

def pings (messages : List RemoteMessage) : List Int32 :=
  (heeded messages).filterMap fun m => m.pingRequest.map RemotePingRequest.value

def answers (written : List RemoteMessage) : List Int32 :=
  written.filterMap fun m => m.pingResponse.map RemotePingResponse.value

theorem heededAppend (a b : List RemoteMessage) : heeded (a ++ b) = heeded a ++ heeded b := List.filter_append ..

theorem lastVolumeAppend (volume : Option AndroidTvVolume) (a b : List RemoteMessage) :
    lastVolume volume (a ++ b) = lastVolume (lastVolume volume a) b := by
  simp only [lastVolume,heededAppend,List.filterMap_append,List.getLast?_append,Option.or_assoc]

theorem pingsAppend (a b : List RemoteMessage) : pings (a ++ b) = pings a ++ pings b := by
  simp only [pings,heededAppend,List.filterMap_append]

theorem answersAppend (a b : List RemoteMessage) : answers (a ++ b) = answers a ++ answers b :=
  List.filterMap_append ..

def pinged (m : RemoteMessage) : List RemoteMessage :=
  (m.pingRequest.map fun request => answerPing request.value).toList

theorem answersPinged {m : RemoteMessage} (kept : m.refused = false) : answers (pinged m) = pings [m] := by
  cases asked : m.pingRequest <;> simp [answers,pinged,pings,heeded,kept,asked,answerPing]

theorem lastVolumeOne {m : RemoteMessage} (kept : m.refused = false) (volume : Option AndroidTvVolume) :
    lastVolume volume [m] = m.reportedVolume.or volume := by
  cases reported : m.reportedVolume <;> simp [lastVolume,heeded,kept,reported]

theorem refusedOne {m : RemoteMessage} (gone : m.refused = true) (volume : Option AndroidTvVolume) :
    lastVolume volume [m] = volume ∧ pings [m] = [] := by
  simp [lastVolume,pings,heeded,gone]

section WaitSteps
variable {α : Type} (select : RemoteMessage → Option α) (expected : String) (left : Nat)
variable (volume : Option AndroidTvVolume) (rest : List RemoteMessage) {m : RemoteMessage}

theorem waitRefused (gone : m.refused = true) :
    waitForHandshakeMessage select expected (left+1) volume (m::rest) =
      ⟨.failed ("device returned an error while waiting for " ++ expected),volume,[],rest⟩ := by
  simp [waitForHandshakeMessage,gone]

theorem waitInvalid (kept : m.refused = false) {v : RemoteVolume} {e : String} (carried : m.volume = some v)
    (invalid : validatedVolume v = .error e) :
    waitForHandshakeMessage select expected (left+1) volume (m::rest) = ⟨.failed e,volume,pinged m,rest⟩ := by
  simp [waitForHandshakeMessage,kept,carried,invalid,pinged]

theorem waitClean (clean : m.Clean) :
    waitForHandshakeMessage select expected (left+1) volume (m::rest) =
      match select m with
      | some value => ⟨.done value,m.reportedVolume.or volume,pinged m,rest⟩
      | none =>
        let next := waitForHandshakeMessage select expected left (m.reportedVolume.or volume) rest
        {next with written := pinged m ++ next.written} := by
  rw [waitForHandshakeMessage,if_neg (by simp [clean.heeded])]
  cases carried : m.volume with
  | none => simp only [Option.map_none,reportedVolume,carried,Option.bind_none,Option.none_or]; rfl
  | some v =>
    obtain ⟨w,valid⟩ := clean.valid v carried
    simp only [Option.map_some,valid,reportedVolume,carried,Option.bind_some,Except.toOption,Option.some_or]
    rfl

end WaitSteps

structure Reading.Follows {α : Type} (r : Reading α) (volume : Option AndroidTvVolume)
    (messages read : List RemoteMessage) : Prop where
  split : messages = read ++ r.rest
  answered : answers r.written = pings read
  noted : r.volume = lastVolume volume read

theorem Reading.Follows.andThen {α β : Type} {r : Reading α}
    {next : α → Option AndroidTvVolume → List RemoteMessage → Reading β} {volume : Option AndroidTvVolume}
    {messages read : List RemoteMessage} (first : r.Follows volume messages read)
    (second : ∀ value, ∃ more, (next value r.volume r.rest).Follows r.volume r.rest more) :
    ∃ whole, (r.andThen next).Follows volume messages whole := by
  unfold Reading.andThen
  cases progress : r.progress with
  | failed error => exact ⟨read,first.split,first.answered,first.noted⟩
  | waiting => exact ⟨read,first.split,first.answered,first.noted⟩
  | done value =>
    obtain ⟨more,then'⟩ := second value
    refine ⟨read ++ more,?_,?_,?_⟩
    · calc messages = read ++ r.rest := first.split
        _ = read ++ (more ++ (next value r.volume r.rest).rest) := by rw [← then'.split]
        _ = read ++ more ++ (next value r.volume r.rest).rest := (List.append_assoc ..).symm
    · rw [answersAppend,first.answered,then'.answered,pingsAppend]
    · rw [then'.noted,first.noted,lastVolumeAppend]

/- Messages other than ping responses may be written in between. -/
theorem Reading.Follows.write {α : Type} {r : Reading α} {volume : Option AndroidTvVolume}
    {messages read : List RemoteMessage} {message : RemoteMessage} (first : r.Follows volume messages read)
    (silent : message.pingResponse = none) : (r.write message).Follows volume messages read := by
  refine ⟨first.split,?_,first.noted⟩
  rw [← first.answered]
  simp [Reading.write,answers,silent]

theorem waitFollows {α : Type} (select : RemoteMessage → Option α) (expected : String) (left : Nat)
    (volume : Option AndroidTvVolume) (messages : List RemoteMessage) :
    ∃ read, (waitForHandshakeMessage select expected left volume messages).Follows volume messages read := by
  induction left generalizing volume messages with
  | zero => exact ⟨[],rfl,rfl,rfl⟩
  | succ left ih =>
    cases messages with
    | nil => exact ⟨[],rfl,rfl,rfl⟩
    | cons m rest =>
      rcases m.met with gone | ⟨kept,unreported,v,e,carried,invalid⟩ | clean
      · rw [waitRefused select expected left volume rest gone]
        exact ⟨[m],rfl,(refusedOne gone volume).2.symm,(refusedOne gone volume).1.symm⟩
      · rw [waitInvalid select expected left volume rest kept carried invalid]
        refine ⟨[m],rfl,answersPinged kept,?_⟩
        rw [lastVolumeOne kept,unreported,Option.none_or]
      · rw [waitClean select expected left volume rest clean]
        have noted := lastVolumeOne clean.heeded volume
        cases selected : select m with
        | some value => exact ⟨[m],rfl,answersPinged clean.heeded,noted.symm⟩
        | none =>
          obtain ⟨read,follows⟩ := ih (m.reportedVolume.or volume) rest
          refine ⟨m::read,?_,?_,?_⟩
          · simpa using follows.split
          · rw [answersAppend,answersPinged clean.heeded,follows.answered,← pingsAppend]
            rfl
          · rw [follows.noted,← noted,← lastVolumeAppend]
            rfl

theorem startFollows (deviceInfo : AndroidTvDeviceInfo) (features : UInt32) (volume : Option AndroidTvVolume)
    (messages : List RemoteMessage) :
    ∃ read, (startStage deviceInfo features volume messages).Follows volume messages read := by
  obtain ⟨read,follows⟩ := waitFollows RemoteMessage.start "remote-start notification" maxHandshakeMessages
    volume messages
  exact follows.andThen fun start => ⟨[],rfl,rfl,rfl⟩

theorem setActiveFollows (deviceInfo : AndroidTvDeviceInfo) (features : UInt32) (volume : Option AndroidTvVolume)
    (messages : List RemoteMessage) :
    ∃ read, (setActiveStage deviceInfo features volume messages).Follows volume messages read := by
  obtain ⟨read,follows⟩ := waitFollows RemoteMessage.setActive "set-active request" maxHandshakeMessages
    volume messages
  refine follows.andThen fun _ => ?_
  obtain ⟨more,rest⟩ := startFollows deviceInfo features _ _
  exact ⟨more,rest.write rfl⟩

theorem handshakeFollows (clientInfo : AndroidTvRemoteClientInfo) (messages : List RemoteMessage) :
    ∃ read, (performHandshake clientInfo messages).Follows none messages read := by
  obtain ⟨read,follows⟩ := waitFollows RemoteMessage.configure "configuration" maxHandshakeMessages none messages
  refine follows.andThen fun configure => ?_
  cases configure.deviceInfo with
  | none => exact ⟨[],rfl,rfl,rfl⟩
  | some info =>
    cases checked : validatedDeviceInfo info with
    | error e =>
      simp only [checked]
      exact ⟨[],rfl,rfl,rfl⟩
    | ok deviceInfo =>
      obtain ⟨more,rest⟩ := setActiveFollows deviceInfo (configure.features.toUInt32 &&& implementedFeatures) _ _
      simp only [checked]
      exact ⟨more,rest.write rfl⟩

end Chromiacast.AndroidTv
