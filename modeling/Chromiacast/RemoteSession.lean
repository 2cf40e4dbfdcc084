import Chromiacast.HandshakeStages

/-! The remote session after its handshake: a task that takes the device's messages and
the caller's commands in the order they come, and stops at the first refused one. Power
and volume are kept for readers outside the task. -/
namespace Chromiacast.AndroidTv
open RemoteMessage Basis

inductive AndroidTvKeyAction where
  | down
  | up
  | press
  deriving DecidableEq, Repr

def AndroidTvKeyAction.protocolValue : AndroidTvKeyAction → Int32
  | down => 1
  | up => 2
  | press => 3

inductive RemoteCommand where
  | key (keyCode : Int32) (action : AndroidTvKeyAction)
  | close
  deriving DecidableEq, Repr

inductive AndroidTvRemoteEvent where
  | powerChanged (poweredOn : Bool)
  | volumeChanged (volume : AndroidTvVolume)
  | disconnected (error : Option String)
  deriving DecidableEq, Repr

inductive Input where
  | message (m : RemoteMessage)
  | command (c : Option RemoteCommand)
  deriving DecidableEq, Repr

structure RemoteTask where
  power : Bool
  volume : Option AndroidTvVolume
  running : Bool
  deriving DecidableEq, Repr

structure Output where
  read : List RemoteMessage
  written : List RemoteMessage
  events : List AndroidTvRemoteEvent
  deriving DecidableEq, Repr

namespace RemoteTask

def start (handshake : HandshakeResult) : RemoteTask := ⟨handshake.poweredOn,handshake.volume,true⟩

def disconnect (t : RemoteTask) (error : Option String) : RemoteTask × List AndroidTvRemoteEvent :=
  ({t with running := false},[.disconnected (error.map ("Android TV protocol error: " ++ ·))])

def applyStart (t : RemoteTask) (message : RemoteMessage) : RemoteTask × List AndroidTvRemoteEvent :=
  match message.start with
  | some start => ({t with power := start.poweredOn},[.powerChanged start.poweredOn])
  | none => (t,[])

def applyVolume (t : RemoteTask) (message : RemoteMessage) : RemoteTask × List AndroidTvRemoteEvent :=
  match message.volume with
  | none => (t,[])
  | some remoteVolume =>
    match validatedVolume remoteVolume with
    | .error e => t.disconnect (some e)
    | .ok current => ({t with volume := some current},[.volumeChanged current])

def handleInbound (t : RemoteTask) (message : RemoteMessage) : RemoteTask × Output :=
  if message.refused then
    let (t,events) := t.disconnect (some "device returned RemoteError")
    (t,⟨[message],[],events⟩)
  else
    let (t,powerEvents) := t.applyStart message
    let (t,volumeEvents) := t.applyVolume message
    (t,⟨[message],pinged message,powerEvents ++ volumeEvents⟩)

def step (t : RemoteTask) (i : Input) : RemoteTask × Output :=
  if t.running then
    match i with
    | .message m => t.handleInbound m
    | .command (some (.key keyCode action)) =>
      (t,⟨[],[{keyInject := some ⟨keyCode,action.protocolValue⟩}],[]⟩)
    | .command _ =>
      let (t,events) := t.disconnect none
      (t,⟨[],[],events⟩)
  else (t,⟨[],[],[]⟩)

end RemoteTask

def Input.received : Input → Option RemoteMessage
  | message m => some m
  | command _ => none

def lastPower (power : Bool) (messages : List RemoteMessage) : Bool :=
  ((heeded messages).filterMap RemoteMessage.start).getLast?.elim power RemoteStart.poweredOn

theorem lastPowerAppend (power : Bool) (a b : List RemoteMessage) :
    lastPower power (a ++ b) = lastPower (lastPower power a) b := by
  simp only [lastPower,heededAppend,List.filterMap_append,List.getLast?_append]
  cases ((heeded b).filterMap RemoteMessage.start).getLast? <;> rfl

theorem lastPowerOne {m : RemoteMessage} (kept : m.refused = false) (power : Bool) :
    lastPower power [m] = m.start.elim power RemoteStart.poweredOn := by
  cases started : m.start <;> simp [lastPower,heeded,kept,started]

structure Heard (t next : RemoteTask) (o : Output) : Prop where
  answered : answers o.written = pings o.read
  noted : next.volume = lastVolume t.volume o.read
  powered : next.power = lastPower t.power o.read

theorem applyStartPower (t : RemoteTask) (m : RemoteMessage) :
    (t.applyStart m).1 = {t with power := m.start.elim t.power RemoteStart.poweredOn} := by
  cases started : m.start <;> simp [RemoteTask.applyStart,started]

theorem applyVolumeNoted (t : RemoteTask) (m : RemoteMessage) :
    (t.applyVolume m).1.volume = m.reportedVolume.or t.volume ∧ (t.applyVolume m).1.power = t.power := by
  unfold RemoteTask.applyVolume
  cases carried : m.volume with
  | none => simp [reportedVolume,carried]
  | some v =>
    cases checked : validatedVolume v with
    | error e => simp [reportedVolume,carried,checked,Except.toOption,RemoteTask.disconnect]
    | ok w => simp [reportedVolume,carried,checked,Except.toOption]

theorem inboundHeard (t : RemoteTask) (m : RemoteMessage) :
    Heard t (t.handleInbound m).1 (t.handleInbound m).2 ∧ (t.handleInbound m).2.read = [m] := by
  cases gone : m.refused with
  | true =>
    have unheeded : heeded [m] = [] := by simp [heeded,gone]
    simp only [RemoteTask.handleInbound,gone,if_true,RemoteTask.disconnect]
    exact ⟨⟨by simp [answers,pings,unheeded],by simp [lastVolume,unheeded],by simp [lastPower,unheeded]⟩,trivial⟩
  | false =>
    obtain ⟨noted,unpowered⟩ := applyVolumeNoted (t.applyStart m).1 m
    rw [applyStartPower] at noted unpowered
    simp only [RemoteTask.handleInbound,gone,Bool.false_eq_true,if_false]
    refine ⟨⟨answersPinged gone,?_,?_⟩,trivial⟩
    · rw [lastVolumeOne gone,applyStartPower,noted]
    · rw [lastPowerOne gone,applyStartPower,unpowered]

theorem stepHeard (t : RemoteTask) (i : Input) : Heard t (t.step i).1 (t.step i).2 := by
  unfold RemoteTask.step
  cases running : t.running with
  | false => exact ⟨rfl,rfl,rfl⟩
  | true =>
    simp only [if_true]
    cases i with
    | message m => exact (inboundHeard t m).1
    | command c =>
      cases c with
      | none => exact ⟨rfl,rfl,rfl⟩
      | some c => cases c <;> exact ⟨rfl,rfl,rfl⟩

def Input.ends : Input → Bool
  | message m => m.refused || m.volume.any fun v => v.maximum = 0 ∨ v.level > v.maximum
  | command (some (.key _ _)) => false
  | command _ => true

def untilEnd : List Input → List Input
  | [] => []
  | i::rest => if i.ends then [i] else i::untilEnd rest

theorem inboundRunning {t : RemoteTask} (running : t.running = true) (m : RemoteMessage) :
    (t.handleInbound m).1.running = !(Input.message m).ends := by
  cases gone : m.refused with
  | true => simp [RemoteTask.handleInbound,RemoteTask.disconnect,Input.ends,gone]
  | false =>
    simp only [RemoteTask.handleInbound,Input.ends,gone,Bool.false_eq_true,if_false,Bool.false_or,
      RemoteTask.applyVolume]
    cases carried : m.volume with
    | none => simp [applyStartPower,running]
    | some v =>
      by_cases invalid : v.maximum = 0 ∨ v.level > v.maximum
      · simpa [validatedVolume,invalid,RemoteTask.disconnect] using or_iff_not_imp_left.mp invalid
      · simp [validatedVolume,applyStartPower,running,not_or.mp invalid]

theorem stepRead {t : RemoteTask} (running : t.running = true) (i : Input) :
    (t.step i).2.read = i.received.toList ∧ (t.step i).1.running = !i.ends := by
  cases i with
  | message m =>
    simp only [RemoteTask.step,running,if_true]
    exact ⟨(inboundHeard t m).2,inboundRunning running m⟩
  | command c =>
    cases c with
    | none => simp [RemoteTask.step,running,RemoteTask.disconnect,Input.received,Input.ends]
    | some c => cases c <;> simp [RemoteTask.step,running,RemoteTask.disconnect,Input.received,Input.ends]

def reads (outputs : List Output) : List RemoteMessage := outputs.flatMap Output.read
def writes (outputs : List Output) : List RemoteMessage := outputs.flatMap Output.written

theorem runHeard (t : RemoteTask) (inputs : List Input) :
    let run := Machine.run RemoteTask.step t inputs
    answers (writes run.2) = pings (reads run.2) ∧ run.1.volume = lastVolume t.volume (reads run.2) ∧
      run.1.power = lastPower t.power (reads run.2) := by
  refine Machine.runTrace (R := fun s trace => answers (writes trace) = pings (reads trace) ∧
    s.volume = lastVolume t.volume (reads trace) ∧ s.power = lastPower t.power (reads trace))
    RemoteTask.step ⟨rfl,rfl,rfl⟩ ?_ inputs
  rintro s trace i ⟨answered,noted,powered⟩
  have heard := stepHeard s i
  have more : reads (trace ++ [(s.step i).2]) = reads trace ++ (s.step i).2.read := by simp [reads]
  have wrote : writes (trace ++ [(s.step i).2]) = writes trace ++ (s.step i).2.written := by simp [writes]
  rw [more,wrote]
  refine ⟨?_,?_,?_⟩
  · rw [answersAppend,answered,heard.answered,pingsAppend]
  · rw [lastVolumeAppend,← noted,heard.noted]
  · rw [lastPowerAppend,← powered,heard.powered]

theorem stoppedReads {t : RemoteTask} (stopped : t.running = false) (inputs : List Input) :
    reads (Machine.run RemoteTask.step t inputs).2 = [] ∧
      (Machine.run RemoteTask.step t inputs).1.running = false := by
  have still (i : Input) : t.step i = (t,⟨[],[],[]⟩) := by simp [RemoteTask.step,stopped]
  induction inputs with
  | nil => exact ⟨rfl,stopped⟩
  | cons i rest ih => simpa [still i,reads] using ih

theorem runReads {t : RemoteTask} (running : t.running = true) (inputs : List Input) :
    let run := Machine.run RemoteTask.step t inputs
    reads run.2 = (untilEnd inputs).filterMap Input.received ∧
      (run.1.running = true ↔ ∀ i ∈ inputs, i.ends = false) := by
  induction inputs generalizing t with
  | nil => exact ⟨rfl,by simpa using running⟩
  | cons i rest ih =>
    obtain ⟨read,alive⟩ := stepRead running i
    simp only [Machine.runCons,reads,List.flatMap_cons,read,untilEnd]
    cases ends : i.ends with
    | true =>
      obtain ⟨silent,stopped⟩ := stoppedReads (t := (t.step i).1) (by rw [alive,ends]; rfl) rest
      unfold reads at silent
      rw [silent,stopped]
      exact ⟨by cases i <;> rfl,by simp [ends]⟩
    | false =>
      obtain ⟨more,runs⟩ := ih (t := (t.step i).1) (by rw [alive,ends]; rfl)
      unfold reads at more
      rw [more,runs]
      exact ⟨by cases i <;> rfl,by simp [ends]⟩

theorem untilEndPrefix (inputs : List Input) : untilEnd inputs <+: inputs := by
  induction inputs with
  | nil => exact List.prefix_refl _
  | cons i rest ih =>
    unfold untilEnd
    split
    · exact ⟨rest,rfl⟩
    · exact List.prefix_cons_inj i |>.mpr ih

theorem untilEndAll {inputs : List Input} (unended : ∀ i ∈ inputs, i.ends = false) : untilEnd inputs = inputs := by
  induction inputs with
  | nil => rfl
  | cons i rest ih =>
    rw [untilEnd,if_neg (by simp [unended i]),ih fun j inside => unended j (List.mem_cons_of_mem i inside)]

theorem deviceTracked (clientInfo : AndroidTvRemoteClientInfo) (messages : List RemoteMessage) :
    ((∃ r, (performHandshake clientInfo messages).progress = .done r) ↔
      ∃ (h : Stages) (info : RemoteDeviceInfo) (rest : List RemoteMessage), messages = h.messages ++ rest ∧
        h.configure.deviceInfo = some info ∧ ValidDeviceInfo info) ∧
    (∀ s₁ t₁ s₂ t₂ s₃ t₃ rest, messages = s₁ ++ (s₂ ++ (s₃ ++ rest)) →
      Inserted RemoteMessage.configure s₁ t₁ → t₁.length ≤ 32 → Inserted RemoteMessage.setActive s₂ t₂ →
      t₂.length ≤ 32 → Inserted RemoteMessage.start s₃ t₃ → t₃.length ≤ 32 →
      (performHandshake clientInfo (t₁ ++ (t₂ ++ (t₃ ++ rest)))).progress.map HandshakeResult.withoutVolume =
        (performHandshake clientInfo messages).progress.map HandshakeResult.withoutVolume) ∧
    ∃ read, messages = read ++ (performHandshake clientInfo messages).rest ∧
      answers (performHandshake clientInfo messages).written = pings read ∧
      ∀ r, (performHandshake clientInfo messages).progress = .done r →
        ∃ (h : Stages) (info : RemoteDeviceInfo), read = h.messages ∧ r = h.result info ∧
          ∀ inputs : List Input,
            let run := Machine.run RemoteTask.step (RemoteTask.start r) inputs
            reads run.2 = (untilEnd inputs).filterMap Input.received ∧
            reads run.2 <+: inputs.filterMap Input.received ∧
            (run.1.running = true ↔ ∀ i ∈ inputs, i.ends = false) ∧
            (run.1.running = true → reads run.2 = inputs.filterMap Input.received) ∧
            answers ((performHandshake clientInfo messages).written ++ writes run.2) =
              pings (read ++ reads run.2) ∧
            run.1.volume = lastVolume none (read ++ reads run.2) ∧
            run.1.power = lastPower h.started.poweredOn (reads run.2) := by
  refine ⟨⟨?_,?_⟩,?_,?_⟩
  · rintro ⟨r,done⟩
    obtain ⟨h,info,carried,valid,split,_⟩ := handshakeDone done rfl
    exact ⟨h,info,_,split,carried,valid⟩
  · rintro ⟨h,info,rest,rfl,carried,valid⟩
    exact ⟨_,(stagesDone clientInfo h carried valid rest).1⟩
  · rintro s₁ t₁ s₂ t₂ s₃ t₃ rest rfl first short₁ second short₂ third short₃
    exact handshakeInserted clientInfo first short₁ second short₂ third short₃ rest
  · obtain ⟨read,follows⟩ := handshakeFollows clientInfo messages
    refine ⟨read,follows.split,follows.answered,fun r done => ?_⟩
    obtain ⟨h,info,_,_,split,rfl⟩ := handshakeDone done rfl
    have same : read = h.messages := List.append_cancel_right (follows.split.symm.trans split)
    refine ⟨h,info,same,rfl,fun inputs => ?_⟩
    obtain ⟨answered,noted,powered⟩ := runHeard (RemoteTask.start (h.result info)) inputs
    obtain ⟨heard,alive⟩ := runReads (t := RemoteTask.start (h.result info)) rfl inputs
    refine ⟨heard,?_,alive,fun running => ?_,?_,?_,powered⟩
    · rw [heard]
      exact (untilEndPrefix inputs).filterMap _
    · rw [heard,untilEndAll (alive.mp running)]
    · rw [answersAppend,follows.answered,answered,pingsAppend]
    · rw [lastVolumeAppend,same]
      exact noted

def switchedOn : List RemoteMessage :=
  [{configure := some ⟨99,some ⟨"m","v",0,"","p","8"⟩⟩},{setActive := some ⟨99⟩},{start := some ⟨true⟩}]

/- A start that comes together with an error is received and not applied. -/
def refusedStart : RemoteMessage := {error := some ⟨true⟩,start := some ⟨false⟩}

theorem refusedStartIgnored :
    (performHandshake ⟨"c","v","p","1"⟩ switchedOn).progress = .done ⟨⟨"m","v","8"⟩,99,true,none⟩ ∧
    reads (Machine.run RemoteTask.step (RemoteTask.start ⟨⟨"m","v","8"⟩,99,true,none⟩)
      [.message refusedStart]).2 = [refusedStart] ∧
    refusedStart.start = some ⟨false⟩ ∧
    (Machine.run RemoteTask.step (RemoteTask.start ⟨⟨"m","v","8"⟩,99,true,none⟩)
      [.message refusedStart]).1.power = true := by
  refine ⟨?_,?_,rfl,?_⟩ <;> decide +kernel

end Chromiacast.AndroidTv
