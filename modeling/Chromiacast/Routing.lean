import Chromiacast.EventLoop

/-! Routing of feedback by SSRC. While the two streams of a session can be told apart,
processing a compound changes a stream exactly as running the operations that name
it, and no stream sees an item of the other. -/
namespace Chromiacast.Session
open Basis

def Separate (s : Session) : Prop :=
  ∀ audio video, s.audio = some audio → s.video = some video →
    audio.senderSyncSource ≠ video.senderSyncSource ∧ audio.receiverSyncSource ≠ video.receiverSyncSource

theorem putGet (s : Session) (type k : StreamType) (stream : StreamState) :
    (s.put type stream).get k = if k = type then some stream else s.get k := by
  cases type <;> cases k <;> rfl

theorem locateCases (s : Session) (matching : StreamState → Bool)
    (apart : ∀ audio video, s.audio = some audio → s.video = some video → matching audio → ¬ matching video) :
    (∃ type stream, s.locate matching = some (type,stream) ∧ s.get type = some stream ∧ matching stream ∧
      ∀ k other, k ≠ type → s.get k = some other → ¬ matching other) ∨
    (s.locate matching = none ∧ ∀ k other, s.get k = some other → ¬ matching other) := by
  by_cases first : s.audio.any matching
  · obtain ⟨audio,present,matched⟩ : ∃ audio, s.audio = some audio ∧ matching audio := by
      simpa [Option.any_eq_true] using first
    refine .inl ⟨.audio,audio,by simp [locate,present,matched],present,matched,?_⟩
    intro k other different found
    cases k with
    | audio => contradiction
    | video => exact apart audio other present found matched
  · have none' (audio : StreamState) (present : s.audio = some audio) : ¬ matching audio := by
      simpa [present] using first
    by_cases second : s.video.any matching
    · obtain ⟨video,present,matched⟩ : ∃ video, s.video = some video ∧ matching video := by
        simpa [Option.any_eq_true] using second
      refine .inl ⟨.video,video,by simp [locate,first,present,matched],present,matched,?_⟩
      intro k other different found
      cases k with
      | audio => exact none' other found
      | video => contradiction
    · refine .inr ⟨by simp [locate,first,second],?_⟩
      intro k other found
      cases k with
      | audio => exact none' other found
      | video =>
        have present : s.video = some other := found
        simpa [present] using second

/- One item of a compound, seen from every stream: the streams it selects take one
step with it, the others keep their state. -/
def Moves (aes : BlockCipher) (s t : Session) (selected : SyncSource × SyncSource → Bool)
    (operation : StreamState.Operation) : Prop :=
  ∀ type, t.get type = (s.get type).map fun x =>
    if selected x.sources then (StreamState.step aes x operation).1 else x

theorem movesNone {aes : BlockCipher} {s : Session} {selected : SyncSource × SyncSource → Bool}
    {operation : StreamState.Operation} (nobody : ∀ k x, s.get k = some x → ¬ selected x.sources) :
    Moves aes s s selected operation := by
  intro type
  cases found : s.get type with
  | none => rfl
  | some x => simp [nobody type x found]

theorem movesPut {aes : BlockCipher} {s : Session} {type : StreamType} {stream : StreamState}
    {selected : SyncSource × SyncSource → Bool} {operation : StreamState.Operation}
    (here : s.get type = some stream) (chosen : selected stream.sources)
    (others : ∀ k x, k ≠ type → s.get k = some x → ¬ selected x.sources) :
    Moves aes s (s.put type (StreamState.step aes stream operation).1) selected operation := by
  intro k
  rw [putGet]
  by_cases same : k = type
  · subst same
    simp [here,chosen]
  · rw [if_neg same]
    cases found : s.get k with
    | none => rfl
    | some x => simp [others k x same found]

theorem Separate.map {s t : Session} (separate : s.Separate) {g : StreamType → StreamState → StreamState}
    (keeps : ∀ type x, (g type x).sources = x.sources) (maps : ∀ type, t.get type = (s.get type).map (g type)) :
    t.Separate := by
  have before {type : StreamType} {y : StreamState} (after : t.get type = some y) :
      ∃ x, s.get type = some x ∧ y.sources = x.sources := by
    rw [maps type] at after
    obtain ⟨x,found,rfl⟩ := Option.map_eq_some_iff.mp after
    exact ⟨x,found,keeps type x⟩
  intro audio video ha hv
  obtain ⟨a,fa,sa⟩ := before (show t.get .audio = _ from ha)
  obtain ⟨v,fv,sv⟩ := before (show t.get .video = _ from hv)
  have apart := separate a v fa fv
  simp only [StreamState.sources,Prod.mk.injEq] at sa sv
  rw [sa.1,sa.2,sv.1,sv.2]
  exact apart

theorem Moves.separate {aes : BlockCipher} {s t : Session} {selected : SyncSource × SyncSource → Bool}
    {operation : StreamState.Operation} (separate : s.Separate) (moves : Moves aes s t selected operation) :
    t.Separate := by
  refine separate.map ?_ moves
  intro _ x
  split
  · exact StreamState.stepSources ..
  · rfl

theorem senderRoute {s : Session} (separate : s.Separate) (syncSource : SyncSource) :
    (∃ type stream, s.findStreamBySenderSyncSource syncSource = (type,some stream) ∧ s.get type = some stream ∧
      stream.senderSyncSource = syncSource ∧
      ∀ k x, k ≠ type → s.get k = some x → x.senderSyncSource ≠ syncSource) ∨
    (∃ type, s.findStreamBySenderSyncSource syncSource = (type,none) ∧
      ∀ k x, s.get k = some x → x.senderSyncSource ≠ syncSource) := by
  have apart : ∀ audio video, s.audio = some audio → s.video = some video →
      decide (audio.senderSyncSource = syncSource) → ¬ decide (video.senderSyncSource = syncSource) := by
    intro audio video ha hv
    have different := (separate audio video ha hv).1
    simp only [decide_eq_true_eq]
    intro one two
    exact different (one.trans two.symm)
  rcases s.locateCases _ apart with ⟨type,stream,found,here,matched,others⟩ | ⟨found,nobody⟩
  · exact .inl ⟨type,stream,by simp [findStreamBySenderSyncSource,found],here,by simpa using matched,
      by simpa using others⟩
  · by_cases audio : isAudio syncSource
    · exact .inr ⟨.audio,by simp [findStreamBySenderSyncSource,found,audio],by simpa using nobody⟩
    · exact .inr ⟨.video,by simp [findStreamBySenderSyncSource,found,audio],by simpa using nobody⟩

theorem receiverRoute {s : Session} (separate : s.Separate) (syncSource : SyncSource) :
    (∃ type stream, s.findStreamByReceiverSyncSource syncSource = some (type,stream) ∧ s.get type = some stream ∧
      stream.receiverSyncSource = syncSource ∧
      ∀ k x, k ≠ type → s.get k = some x → x.receiverSyncSource ≠ syncSource) ∨
    (s.findStreamByReceiverSyncSource syncSource = none ∧
      ∀ k x, s.get k = some x → x.receiverSyncSource ≠ syncSource) := by
  have apart : ∀ audio video, s.audio = some audio → s.video = some video →
      decide (audio.receiverSyncSource = syncSource) → ¬ decide (video.receiverSyncSource = syncSource) := by
    intro audio video ha hv
    have different := (separate audio video ha hv).2
    simp only [decide_eq_true_eq]
    intro one two
    exact different (one.trans two.symm)
  rcases s.locateCases _ apart with ⟨type,stream,found,here,matched,others⟩ | ⟨found,nobody⟩
  · exact .inl ⟨type,stream,found,here,by simpa using matched,by simpa using others⟩
  · exact .inr ⟨found,by simpa using nobody⟩

theorem routedMoves {aes : BlockCipher} {s t : Session} {sender receiver : SyncSource}
    {operation : StreamState.Operation} (separate : s.Separate)
    (unrouted : ∀ type, s.findStreamBySenderSyncSource sender = (type,none) → t = s)
    (refused : ∀ type stream, s.findStreamBySenderSyncSource sender = (type,some stream) →
      stream.receiverSyncSource ≠ receiver → t = s)
    (routed : ∀ type stream, s.findStreamBySenderSyncSource sender = (type,some stream) →
      stream.receiverSyncSource = receiver → t = s.put type (StreamState.step aes stream operation).1) :
    Moves aes s t (fun sources => sources = (sender,receiver)) operation := by
  rcases senderRoute separate sender with ⟨type,stream,found,here,matched,others⟩ | ⟨type,found,nobody⟩
  · by_cases accepts : stream.receiverSyncSource = receiver
    · rw [routed type stream found accepts]
      refine movesPut here (by simp [StreamState.sources,matched,accepts]) ?_
      intro k x different present
      simp [StreamState.sources,others k x different present]
    · rw [refused type stream found accepts]
      refine movesNone ?_
      intro k x present
      by_cases same : k = type
      · subst same
        rw [here] at present
        cases Option.some.inj present
        simp [StreamState.sources,accepts]
      · simp [StreamState.sources,others k x same present]
  · rw [unrouted type found]
    refine movesNone ?_
    intro k x present
    simp [StreamState.sources,nobody k x present]

theorem reportMoves (aes : BlockCipher) {s : Session} (separate : s.Separate) (receivedAt : Nat)
    (report : ReceiverReport) : Moves aes s (processReceiverReport receivedAt s report)
      (fun sources => sources = (report.syncSource,report.receiverSyncSource)) (.receiverReport report receivedAt) := by
  refine routedMoves separate ?_ ?_ ?_
  · intro type found
    simp [processReceiverReport,found]
  · intro type stream found refused
    simp [processReceiverReport,found,StreamState.acceptsReceiverSyncSource,refused]
  · intro type stream found accepts
    simp [processReceiverReport,found,StreamState.acceptsReceiverSyncSource,accepts,StreamState.step]

theorem castMoves (aes : BlockCipher) {p : Processing} (separate : p.session.Separate) (feedback : CastFeedback) :
    Moves aes p.session (processCast p feedback).session
      (fun sources => sources = (feedback.senderSyncSource,feedback.receiverSyncSource)) (.castFeedback feedback) := by
  refine routedMoves separate ?_ ?_ ?_
  · intro type found
    simp [processCast,found]
  · intro type stream found refused
    simp [processCast,found,StreamState.acceptsReceiverSyncSource,refused]
  · intro type stream found accepts
    simp [processCast,found,StreamState.acceptsReceiverSyncSource,accepts,StreamState.step]

theorem referenceTimeMoves (aes : BlockCipher) {s : Session} (separate : s.Separate) (report : ReceiverReferenceTime) :
    Moves aes s (processReferenceTime s report) (fun sources => sources.2 = report.receiverSyncSource)
      (.receiverReferenceTime report) := by
  rcases receiverRoute separate report.receiverSyncSource with
    ⟨type,stream,found,here,matched,others⟩ | ⟨found,nobody⟩
  · have moved : processReferenceTime s report =
        s.put type (StreamState.step aes stream (.receiverReferenceTime report)).1 := by
      simp [processReferenceTime,found,StreamState.step]
    rw [moved]
    refine movesPut here (by simp [StreamState.sources,matched]) ?_
    intro k x different present
    simp [StreamState.sources,others k x different present]
  · have kept : processReferenceTime s report = s := by simp [processReferenceTime,found]
    rw [kept]
    refine movesNone ?_
    intro k x present
    simp [StreamState.sources,nobody k x present]

theorem foldMoves {π ι : Type} (aes : BlockCipher) (view : π → Session) (f : π → ι → π)
    (selected : ι → SyncSource × SyncSource → Bool) (operation : ι → StreamState.Operation)
    (moves : ∀ p i, (view p).Separate → Moves aes (view p) (view (f p i)) (selected i) (operation i))
    (items : List ι) (p : π) (separate : (view p).Separate) :
    (view (items.foldl f p)).Separate ∧ ∀ type, (view (items.foldl f p)).get type =
      ((view p).get type).map fun x => (Machine.run (StreamState.step aes) x
        ((items.filter (fun i => selected i x.sources)).map operation)).1 := by
  induction items generalizing p with
  | nil => exact ⟨separate,fun type => by simp⟩
  | cons i rest ih =>
    have first := moves p i separate
    obtain ⟨apart,later⟩ := ih (f p i) (first.separate separate)
    refine ⟨apart,?_⟩
    intro type
    rw [List.foldl_cons,later type,first type,Option.map_map]
    congr 1
    funext x
    by_cases chosen : selected i x.sources
    · simp [chosen,StreamState.stepSources]
    · simp [chosen]

def ownOperations (sources : SyncSource × SyncSource) (compound : CompoundRtcpPacket) (receivedAt : Nat) :
    List StreamState.Operation :=
  (compound.receiverReports.filter (fun report => sources = (report.syncSource,report.receiverSyncSource))).map
      (fun report => .receiverReport report receivedAt) ++
    (compound.castFeedbacks.filter
      (fun feedback => sources = (feedback.senderSyncSource,feedback.receiverSyncSource))).map .castFeedback ++
    (compound.receiverReferenceTimes.filter (fun report => sources.2 = report.receiverSyncSource)).map
      .receiverReferenceTime

theorem runSources (aes : BlockCipher) (x : StreamState) (operations : List StreamState.Operation) :
    (Machine.run (StreamState.step aes) x operations).1.sources = x.sources :=
  Machine.runInvariant (P := fun y => y.sources = x.sources) (StreamState.step aes)
    (fun y operation same => (StreamState.stepSources aes y operation).trans same) rfl operations

theorem processFeedbackStream (aes : BlockCipher) {s : Session} (separate : s.Separate)
    (compound : CompoundRtcpPacket) (receivedAt : Nat) (type : StreamType) :
    (s.processFeedback compound receivedAt).session.get type = (s.get type).map fun x =>
      (Machine.run (StreamState.step aes) x (ownOperations x.sources compound receivedAt)).1 := by
  obtain ⟨apart₁,reports⟩ := foldMoves aes id (processReceiverReport receivedAt) _ _
    (fun s report separate => reportMoves aes separate receivedAt report) compound.receiverReports s separate
  obtain ⟨apart₂,casts⟩ := foldMoves aes Processing.session processCast _ _
    (fun p feedback separate => castMoves aes separate feedback) compound.castFeedbacks
    ⟨compound.receiverReports.foldl (processReceiverReport receivedAt) s,⟨false,false⟩,[]⟩ apart₁
  obtain ⟨_,times⟩ := foldMoves aes id processReferenceTime _ _
    (fun s report separate => referenceTimeMoves aes separate report) compound.receiverReferenceTimes _ apart₂
  have last : (s.processFeedback compound receivedAt).session.get type = _ := times type
  rw [last]
  simp only [id]
  rw [casts type]
  have first := reports type
  simp only [id] at first
  rw [first,Option.map_map,Option.map_map]
  congr 1
  funext x
  simp only [Function.comp,runSources,ownOperations,Machine.runAppend]

end Chromiacast.Session
