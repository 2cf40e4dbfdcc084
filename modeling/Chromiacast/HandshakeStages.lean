import Chromiacast.RemoteHandshake

/-! When the handshake succeeds. A stage is a run of clean messages up to the first one
with the awaited field; messages put in before that field leave the result as it is,
but for the volume. -/
namespace Chromiacast.AndroidTv
open RemoteMessage

inductive Stage {α : Type} (select : RemoteMessage → Option α) : List RemoteMessage → α → Prop
  | found {m : RemoteMessage} {value : α} (clean : m.Clean) (selected : select m = some value) : Stage select [m] value
  | skip {m : RemoteMessage} {s : List RemoteMessage} {value : α} (clean : m.Clean) (other : select m = none)
      (more : Stage select s value) : Stage select (m::s) value

theorem stageCons {α : Type} {select : RemoteMessage → Option α} {left : Nat} {m : RemoteMessage}
    {tail rest : List RemoteMessage} {value : α} :
    (∃ s, m::tail = s ++ rest ∧ Stage select s value ∧ s.length ≤ left+1) ↔ m.Clean ∧
      (select m = some value ∧ tail = rest ∨
        select m = none ∧ ∃ s, tail = s ++ rest ∧ Stage select s value ∧ s.length ≤ left) := by
  constructor
  · rintro ⟨s,split,stage,short⟩
    cases stage with
    | found clean here =>
      obtain ⟨rfl,rfl⟩ := List.cons.inj split
      exact ⟨clean,.inl ⟨here,rfl⟩⟩
    | skip clean other more =>
      obtain ⟨rfl,rfl⟩ := List.cons.inj split
      exact ⟨clean,.inr ⟨other,_,rfl,more,by simpa using short⟩⟩
  · rintro ⟨clean,⟨here,rfl⟩ | ⟨other,s,rfl,more,short⟩⟩
    · exact ⟨[m],rfl,.found clean here,by simp⟩
    · exact ⟨m::s,rfl,.skip clean other more,by simpa using short⟩

theorem waitDoneIff {α : Type} {select : RemoteMessage → Option α} {expected : String} {left : Nat}
    {volume : Option AndroidTvVolume} {messages rest : List RemoteMessage} {value : α} :
    ((waitForHandshakeMessage select expected left volume messages).progress = .done value ∧
      (waitForHandshakeMessage select expected left volume messages).rest = rest) ↔
      ∃ s, messages = s ++ rest ∧ Stage select s value ∧ s.length ≤ left := by
  induction left generalizing volume messages with
  | zero =>
    refine ⟨fun done => absurd done.1 (by simp [waitForHandshakeMessage]),?_⟩
    rintro ⟨s,_,stage,short⟩
    cases stage <;> simp at short
  | succ left ih =>
    cases messages with
    | nil =>
      refine ⟨fun done => absurd done.1 (by simp [waitForHandshakeMessage]),?_⟩
      rintro ⟨s,split,stage,_⟩
      cases stage <;> simp at split
    | cons m tail =>
      rw [stageCons]
      rcases m.met with gone | ⟨kept,_,v,e,carried,invalid⟩ | clean
      · rw [waitRefused select expected left volume tail gone]
        refine ⟨fun done => absurd done.1 (by simp),fun staged => ?_⟩
        exact absurd staged.1.heeded (by simp [gone])
      · rw [waitInvalid select expected left volume tail kept carried invalid]
        refine ⟨fun done => absurd done.1 (by simp),fun staged => ?_⟩
        obtain ⟨w,valid⟩ := staged.1.valid v carried
        rw [invalid] at valid
        simp at valid
      · rw [waitClean select expected left volume tail clean]
        cases selected : select m with
        | some found => simp [clean]
        | none => simp [clean,ih]

theorem andThenDoneIff {α β : Type} {r : Reading α}
    {next : α → Option AndroidTvVolume → List RemoteMessage → Reading β} {value : β}
    {rest : List RemoteMessage} :
    ((r.andThen next).progress = .done value ∧ (r.andThen next).rest = rest) ↔
      ∃ a, r.progress = .done a ∧ (next a r.volume r.rest).progress = .done value ∧
        (next a r.volume r.rest).rest = rest := by
  unfold Reading.andThen
  cases progress : r.progress with
  | failed error => simp
  | waiting => simp
  | done a => simp

theorem waitStage {α : Type} {select : RemoteMessage → Option α} {expected : String} {left : Nat}
    {volume : Option AndroidTvVolume} {messages : List RemoteMessage} {value : α}
    (done : (waitForHandshakeMessage select expected left volume messages).progress = .done value) :
    ∃ s, messages = s ++ (waitForHandshakeMessage select expected left volume messages).rest ∧
      Stage select s value ∧ s.length ≤ left ∧
      (waitForHandshakeMessage select expected left volume messages).volume = lastVolume volume s := by
  obtain ⟨s,split,stage,short⟩ := waitDoneIff.mp ⟨done,rfl⟩
  obtain ⟨read,follows⟩ := waitFollows select expected left volume messages
  cases List.append_cancel_right (split.symm.trans follows.split)
  exact ⟨s,split,stage,short,follows.noted⟩

theorem stageWaited {α : Type} {select : RemoteMessage → Option α} {s : List RemoteMessage} {value : α} {left : Nat}
    (stage : Stage select s value) (short : s.length ≤ left) (expected : String)
    (volume : Option AndroidTvVolume) (rest : List RemoteMessage) :
    (waitForHandshakeMessage select expected left volume (s ++ rest)).progress = .done value ∧
      (waitForHandshakeMessage select expected left volume (s ++ rest)).rest = rest ∧
      (waitForHandshakeMessage select expected left volume (s ++ rest)).volume = lastVolume volume s := by
  obtain ⟨done,left'⟩ := waitDoneIff.mpr ⟨s,rfl,stage,short⟩
  obtain ⟨read,follows⟩ := waitFollows select expected left volume (s ++ rest)
  have same := follows.split
  rw [left'] at same
  cases List.append_cancel_right same
  exact ⟨done,left',follows.noted⟩

def ValidDeviceInfo (info : RemoteDeviceInfo) : Prop :=
  ∀ text ∈ [info.model,info.vendor,info.appVersion],
    text.utf8ByteSize ≤ maxDeviceTextBytes ∧ ∀ c ∈ text.toList, isControl c = false

theorem deviceInfoIff {info : RemoteDeviceInfo} {d : AndroidTvDeviceInfo} :
    validatedDeviceInfo info = .ok d ↔
      ValidDeviceInfo info ∧ d = ⟨info.model,info.vendor,info.appVersion⟩ := by
  have text (value : String) : deviceTextInvalid value = false ↔
      value.utf8ByteSize ≤ maxDeviceTextBytes ∧ ∀ c ∈ value.toList, isControl c = false := by
    simp [deviceTextInvalid]
  have valid : ValidDeviceInfo info ↔
      [("model",info.model),("vendor",info.vendor),("service version",info.appVersion)].find?
        (fun field => deviceTextInvalid field.2) = none := by
    simp [ValidDeviceInfo,← text]
  rw [valid,validatedDeviceInfo]
  split
  · rename_i found
    simp [found]
  · rename_i found
    simp [found,eq_comm]

structure Stages where
  configuration : List RemoteMessage
  activation : List RemoteMessage
  starting : List RemoteMessage
  configure : RemoteConfigure
  active : RemoteSetActive
  started : RemoteStart
  first : Stage RemoteMessage.configure configuration configure
  second : Stage RemoteMessage.setActive activation active
  third : Stage RemoteMessage.start starting started
  short : configuration.length ≤ maxHandshakeMessages ∧ activation.length ≤ maxHandshakeMessages ∧
    starting.length ≤ maxHandshakeMessages

def Stages.messages (h : Stages) : List RemoteMessage := h.configuration ++ (h.activation ++ h.starting)

def Stages.result (h : Stages) (info : RemoteDeviceInfo) : HandshakeResult :=
  ⟨⟨info.model,info.vendor,info.appVersion⟩,h.configure.features.toUInt32 &&& implementedFeatures,
    h.started.poweredOn,lastVolume none h.messages⟩

theorem handshakeDone {clientInfo : AndroidTvRemoteClientInfo} {messages unread : List RemoteMessage}
    {r : HandshakeResult} (done : (performHandshake clientInfo messages).progress = .done r)
    (left : (performHandshake clientInfo messages).rest = unread) :
    ∃ (h : Stages) (info : RemoteDeviceInfo), h.configure.deviceInfo = some info ∧ ValidDeviceInfo info ∧
      messages = h.messages ++ unread ∧ r = h.result info := by
  obtain ⟨configure,configured,next,rest⟩ := andThenDoneIff.mp ⟨done,left⟩
  obtain ⟨s₁,split₁,stage₁,short₁,volume₁⟩ := waitStage configured
  cases carried : configure.deviceInfo with
  | none => rw [carried] at next; simp at next
  | some info =>
    simp only [carried] at next rest
    cases checked : validatedDeviceInfo info with
    | error e => rw [checked] at next; simp at next
    | ok deviceInfo =>
      obtain ⟨valid,rfl⟩ := deviceInfoIff.mp checked
      simp only [checked] at next rest
      obtain ⟨active,activated,next,rest⟩ := andThenDoneIff.mp ⟨next,rest⟩
      obtain ⟨s₂,split₂,stage₂,short₂,volume₂⟩ := waitStage activated
      obtain ⟨start,started,next,rest⟩ := andThenDoneIff.mp ⟨next,rest⟩
      obtain ⟨s₃,split₃,stage₃,short₃,volume₃⟩ := waitStage started
      let h : Stages :=
        ⟨s₁,s₂,s₃,configure,active,start,stage₁,stage₂,stage₃,short₁,short₂,short₃⟩
      refine ⟨h,info,carried,valid,?_,?_⟩
      · have after : (waitForHandshakeMessage RemoteMessage.configure "configuration" maxHandshakeMessages none
            messages).rest = s₂ ++ (s₃ ++ unread) := by
          rw [split₂,split₃]
          exact congrArg (fun tail => s₂ ++ (s₃ ++ tail)) rest
        rw [split₁,after]
        simp [h,Stages.messages]
      · cases Progress.done.inj next
        rw [volume₃,volume₂,volume₁,← lastVolumeAppend,← lastVolumeAppend]
        rfl

theorem stagesDone (clientInfo : AndroidTvRemoteClientInfo) (h : Stages) {info : RemoteDeviceInfo}
    (carried : h.configure.deviceInfo = some info) (valid : ValidDeviceInfo info) (unread : List RemoteMessage) :
    (performHandshake clientInfo (h.messages ++ unread)).progress = .done (h.result info) ∧
      (performHandshake clientInfo (h.messages ++ unread)).rest = unread := by
  have whole : h.messages ++ unread = h.configuration ++ (h.activation ++ (h.starting ++ unread)) := by
    simp [Stages.messages]
  obtain ⟨done₁,rest₁,volume₁⟩ := stageWaited h.first h.short.1 "configuration" none
    (h.activation ++ (h.starting ++ unread))
  obtain ⟨done₂,rest₂,volume₂⟩ := stageWaited h.second h.short.2.1 "set-active request"
    (lastVolume none h.configuration) (h.starting ++ unread)
  obtain ⟨done₃,rest₃,volume₃⟩ := stageWaited h.third h.short.2.2 "remote-start notification"
    (lastVolume (lastVolume none h.configuration) h.activation) unread
  rw [whole,performHandshake]
  refine andThenDoneIff.mpr ⟨h.configure,done₁,?_⟩
  simp only [carried,deviceInfoIff.mpr ⟨valid,rfl⟩,rest₁,volume₁]
  refine andThenDoneIff.mpr ⟨h.active,done₂,?_⟩
  simp only [rest₂,volume₂]
  refine andThenDoneIff.mpr ⟨h.started,done₃,?_,rest₃⟩
  simp only [volume₃]
  rw [← lastVolumeAppend,← lastVolumeAppend]
  rfl

structure RemoteMessage.Unrelated (m : RemoteMessage) : Prop where
  clean : m.Clean
  configure : m.configure = none
  setActive : m.setActive = none
  start : m.start = none

inductive Inserted {α : Type} (select : RemoteMessage → Option α) : List RemoteMessage → List RemoteMessage → Prop
  | awaited {m : RemoteMessage} {value : α} (selected : select m = some value) : Inserted select [m] [m]
  | keep {m : RemoteMessage} {s t : List RemoteMessage} (other : select m = none) (more : Inserted select s t) :
      Inserted select (m::s) (m::t)
  | add {m : RemoteMessage} {s t : List RemoteMessage} (unrelated : m.Unrelated) (more : Inserted select s t) :
      Inserted select s (m::t)

theorem Inserted.shorter {α : Type} {select : RemoteMessage → Option α} {s t : List RemoteMessage}
    (inserted : Inserted select s t) : s.length ≤ t.length := by
  induction inserted with
  | awaited selected => simp
  | keep other more ih => simpa using ih
  | add unrelated more ih => exact Nat.le_succ_of_le ih

theorem waitInserted {α : Type} {select : RemoteMessage → Option α} (ignores : ∀ m, m.Unrelated → select m = none)
    {s t : List RemoteMessage} (inserted : Inserted select s t) (expected : String) {left left' : Nat}
    (short : t.length ≤ left) (short' : s.length ≤ left') (volume volume' : Option AndroidTvVolume)
    (rest rest' : List RemoteMessage) :
    let changed := waitForHandshakeMessage select expected left volume (t ++ rest)
    let original := waitForHandshakeMessage select expected left' volume' (s ++ rest')
    changed.progress = original.progress ∧
      (∀ value, original.progress = .done value → changed.rest = rest ∧ original.rest = rest') := by
  induction inserted generalizing left left' volume volume' with
  | @awaited m value selected =>
    obtain ⟨left,rfl⟩ : ∃ k, left = k+1 := ⟨left-1,by simp at short; omega⟩
    obtain ⟨left',rfl⟩ : ∃ k, left' = k+1 := ⟨left'-1,by simp at short'; omega⟩
    simp only [List.singleton_append]
    rcases m.met with gone | ⟨kept,_,v,e,carried,invalid⟩ | clean
    · simp [waitRefused _ _ _ _ _ gone]
    · simp [waitInvalid _ _ _ _ _ kept carried invalid]
    · simp [waitClean _ _ _ _ _ clean,selected]
  | @keep m s t other more ih =>
    obtain ⟨left,rfl⟩ : ∃ k, left = k+1 := ⟨left-1,by simp at short; omega⟩
    obtain ⟨left',rfl⟩ : ∃ k, left' = k+1 := ⟨left'-1,by simp at short'; omega⟩
    simp only [List.cons_append]
    rcases m.met with gone | ⟨kept,_,v,e,carried,invalid⟩ | clean
    · simp [waitRefused _ _ _ _ _ gone]
    · simp [waitInvalid _ _ _ _ _ kept carried invalid]
    · simp only [waitClean _ _ _ _ _ clean,other]
      exact ih (by simpa using short) (by simpa using short') _ _
  | @add m s t unrelated more ih =>
    obtain ⟨left,rfl⟩ : ∃ k, left = k+1 := ⟨left-1,by simp at short; omega⟩
    simp only [List.cons_append,waitClean _ _ _ _ _ unrelated.clean,ignores m unrelated]
    exact ih (by simpa using short) short' _ _

def Progress.map {α β : Type} (f : α → β) : Progress α → Progress β
  | done value => .done (f value)
  | failed error => .failed error
  | waiting => .waiting

def HandshakeResult.withoutVolume (r : HandshakeResult) : HandshakeResult := {r with volume := none}

theorem andThenProgress {α β γ : Type} {f : β → γ} {r r' : Reading α}
    {next next' : α → Option AndroidTvVolume → List RemoteMessage → Reading β} (same : r.progress = r'.progress)
    (step : ∀ value, r'.progress = .done value →
      (next value r.volume r.rest).progress.map f = (next' value r'.volume r'.rest).progress.map f) :
    (r.andThen next).progress.map f = (r'.andThen next').progress.map f := by
  unfold Reading.andThen
  rw [same]
  cases progress : r'.progress with
  | failed error => rfl
  | waiting => rfl
  | done value => exact step value progress

theorem startInserted {s t : List RemoteMessage} (inserted : Inserted RemoteMessage.start s t)
    (short : t.length ≤ maxHandshakeMessages) (deviceInfo : AndroidTvDeviceInfo) (features : UInt32)
    (volume volume' : Option AndroidTvVolume) (rest : List RemoteMessage) :
    (startStage deviceInfo features volume (t ++ rest)).progress.map HandshakeResult.withoutVolume =
      (startStage deviceInfo features volume' (s ++ rest)).progress.map HandshakeResult.withoutVolume := by
  obtain ⟨same,_⟩ := waitInserted (fun m unrelated => unrelated.start) inserted "remote-start notification" short
    (Nat.le_trans inserted.shorter short) volume volume' rest rest
  exact andThenProgress same fun value done => rfl

theorem setActiveInserted {s t s' t' : List RemoteMessage} (inserted : Inserted RemoteMessage.setActive s t)
    (short : t.length ≤ maxHandshakeMessages) (inserted' : Inserted RemoteMessage.start s' t')
    (short' : t'.length ≤ maxHandshakeMessages) (deviceInfo : AndroidTvDeviceInfo) (features : UInt32)
    (volume volume' : Option AndroidTvVolume) (rest : List RemoteMessage) :
    (setActiveStage deviceInfo features volume (t ++ (t' ++ rest))).progress.map HandshakeResult.withoutVolume =
      (setActiveStage deviceInfo features volume' (s ++ (s' ++ rest))).progress.map
        HandshakeResult.withoutVolume := by
  obtain ⟨same,ends⟩ := waitInserted (fun m unrelated => unrelated.setActive) inserted "set-active request" short
    (Nat.le_trans inserted.shorter short) volume volume' (t' ++ rest) (s' ++ rest)
  refine andThenProgress same fun value done => ?_
  obtain ⟨changed,original⟩ := ends value done
  rw [changed,original]
  exact startInserted inserted' short' deviceInfo features _ _ rest

theorem handshakeInserted (clientInfo : AndroidTvRemoteClientInfo) {s₁ t₁ s₂ t₂ s₃ t₃ : List RemoteMessage}
    (first : Inserted RemoteMessage.configure s₁ t₁) (short₁ : t₁.length ≤ maxHandshakeMessages)
    (second : Inserted RemoteMessage.setActive s₂ t₂) (short₂ : t₂.length ≤ maxHandshakeMessages)
    (third : Inserted RemoteMessage.start s₃ t₃) (short₃ : t₃.length ≤ maxHandshakeMessages)
    (rest : List RemoteMessage) :
    (performHandshake clientInfo (t₁ ++ (t₂ ++ (t₃ ++ rest)))).progress.map HandshakeResult.withoutVolume =
      (performHandshake clientInfo (s₁ ++ (s₂ ++ (s₃ ++ rest)))).progress.map HandshakeResult.withoutVolume := by
  obtain ⟨same,ends⟩ := waitInserted (fun m unrelated => unrelated.configure) first "configuration" short₁
    (Nat.le_trans first.shorter short₁) none none (t₂ ++ (t₃ ++ rest)) (s₂ ++ (s₃ ++ rest))
  refine andThenProgress same fun configure done => ?_
  obtain ⟨changed,original⟩ := ends configure done
  rw [changed,original]
  cases configure.deviceInfo with
  | none => rfl
  | some info =>
    cases checked : validatedDeviceInfo info with
    | error e => simp only [checked]
    | ok deviceInfo =>
      simp only [checked]
      exact setActiveInserted second short₂ third short₃ deviceInfo _ _ _ rest

end Chromiacast.AndroidTv
