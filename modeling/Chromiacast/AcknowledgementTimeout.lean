import Chromiacast.HandlerWatch
import Chromiacast.Pacing

/-! The watchdogs over whole runs of the loop: when a stream is waited for, since when,
and which poll gives up. -/
namespace Chromiacast
open Basis

def everAcknowledged (type : StreamType) (trace : List (Option Handled)) : Bool :=
  trace.any fun out => out.any fun h => h.acknowledges type

structure Watching (l : SenderLoop) (trace : List (Option Handled)) : Prop where
  served : l.session.Served
  waiting : ∀ type, (l.watchdog type).waitingSince = waitingFrom (period type trace)
  empty : ∀ type, l.inFlight type = 0 → period type trace = []
  acked : ∀ type, (l.watchdog type).hasAcknowledged = everAcknowledged type trace

theorem Watching.ready {l : SenderLoop} {trace : List (Option Handled)} (watching : Watching l trace) : l.Ready :=
  ⟨watching.served,fun type nothing => by rw [watching.waiting,watching.empty type nothing]; rfl⟩

theorem periodSnoc (type : StreamType) (trace : List (Option Handled)) (out : Option Handled) :
    period type (trace ++ [out]) = out.elim (period type trace) fun h =>
      if h.loop.inFlight type = 0 then [] else period type trace ++ h.notes type := by
  rw [period,List.foldl_append]
  rfl

theorem everSnoc (type : StreamType) (trace : List (Option Handled)) (out : Option Handled) :
    everAcknowledged type (trace ++ [out]) = (everAcknowledged type trace || out.any fun h => h.acknowledges type) := by
  simp only [everAcknowledged,List.any_append,List.any_cons,List.any_nil,Bool.or_false]

theorem Watching.handled {l : SenderLoop} {trace : List (Option Handled)} (watching : Watching l trace) {h : Handled}
    (watches : ∀ type, Watches type l h) (going : h.exit = none) : Watching h.loop (trace ++ [some h]) := by
  refine ⟨(watches .audio).served,fun type => ?_,fun type nothing => ?_,fun type => ?_⟩
  · rw [periodSnoc,(watches type).waiting going,watching.waiting]
    simp only [Option.elim_some]
    split
    · rfl
    · rw [waitingAppend]
  · rw [periodSnoc]
    exact if_pos nothing
  · rw [everSnoc,(watches type).acked going,watching.acked]
    rfl

theorem stepWatching {aes : BlockCipher} {remote : SocketAddr} {w after : SenderRun} {action : SenderAction}
    {out : Option Handled} {trace : List (Option Handled)} (taken : w.StepTaken aes remote action after out)
    (watching : w.result = none → Watching w.loop trace) (going : after.result = none) :
    Watching after.loop (trace ++ [out]) := by
  have silent (before : Watching w.loop trace) : Watching w.loop (trace ++ [none]) := by
    refine ⟨before.served,fun type => ?_,fun type nothing => ?_,fun type => ?_⟩
    · rw [periodSnoc]
      exact before.waiting type
    · rw [periodSnoc]
      exact before.empty type nothing
    · rw [everSnoc]
      exact (before.acked type).trans (Bool.or_false _).symm
  cases taken with
  | read count => exact silent (watching going)
  | ended input reads returned => exact absurd going returned
  | handled input reads running h handled =>
    have before := watching running
    exact before.handled (fun type => handled ▸ handleWatches before.ready aes remote input) going

def Session.start (audio video : Option (StreamParameters × UInt16)) : Session :=
  ⟨audio.map fun stream => .new stream.1 stream.2,video.map fun stream => .new stream.1 stream.2⟩

theorem startServed (audio video : Option (StreamParameters × UInt16)) : (Session.start audio video).Served := by
  intro type x here
  have fresh {stream : Option (StreamParameters × UInt16)}
      (started : stream.map (fun stream => StreamState.new stream.1 stream.2) = some x) : x.Served := by
    obtain ⟨parameters,_,rfl⟩ := Option.map_eq_some_iff.mp started
    exact StreamState.newServed _ _
  cases type with
  | audio => exact fresh here
  | video => exact fresh here

theorem runWatching (aes : BlockCipher) (remote : SocketAddr) (audio video : Option (StreamParameters × UInt16))
    (now : Nat) (actions : List SenderAction) :
    let final := SenderRun.run aes remote (Session.start audio video) now actions
    final.1.result = none → Watching final.1.loop final.2 := by
  refine Machine.runTrace (SenderRun.step aes remote) (R := fun w trace => w.result = none → Watching w.loop trace)
    (fun _ => ?_) (fun w trace action watching => stepWatching (w.stepTaken aes remote action) watching) actions
  exact ⟨startServed audio video,fun type => by cases type <;> rfl,fun _ _ => rfl,fun type => by cases type <;> rfl⟩

def polledAt (audioAt videoAt : Nat) : StreamType → Nat
  | .audio => audioAt
  | .video => videoAt

theorem timedOutIff (w : AcknowledgementWatchdog) (count now : Nat) : (w.timedOut (count ≠ 0) now).2 ↔
    count ≠ 0 ∧ ∃ since, w.waitingSince = some since ∧ w.timeout ≤ now-since := by
  unfold AcknowledgementWatchdog.timedOut
  by_cases empty : count = 0
  · simp [empty]
  · simp [empty,Option.any_eq_true]

theorem pollIff (l : SenderLoop) (audioAt videoAt : Nat) :
    (l.onTimeoutTick audioAt videoAt).exit = some (.error .receiverTimedOut) ↔
      ∃ type since, l.inFlight type ≠ 0 ∧ (l.watchdog type).waitingSince = some since ∧
        (l.watchdog type).timeout ≤ polledAt audioAt videoAt type-since := by
  have each : (l.onTimeoutTick audioAt videoAt).exit = some (.error .receiverTimedOut) ↔
      (l.audioWatchdog.timedOut (l.inFlight .audio ≠ 0) audioAt).2 ∨
        (l.videoWatchdog.timedOut (l.inFlight .video ≠ 0) videoAt).2 := by
    simp only [SenderLoop.onTimeoutTick]
    split
    · rename_i due
      exact ⟨fun _ => Bool.or_eq_true_iff.mp due,fun _ => rfl⟩
    · rename_i patient
      exact ⟨fun ended => (by cases ended),fun due => absurd (Bool.or_eq_true_iff.mpr due) patient⟩
  rw [each,timedOutIff,timedOutIff]
  constructor
  · rintro (⟨some,since,waiting,due⟩ | ⟨some,since,waiting,due⟩)
    · exact ⟨.audio,since,some,waiting,due⟩
    · exact ⟨.video,since,some,waiting,due⟩
  · rintro ⟨type,since,some,waiting,due⟩
    cases type with
    | audio => exact .inl ⟨some,since,waiting,due⟩
    | video => exact .inr ⟨some,since,waiting,due⟩

theorem deadlineKept {type : StreamType} {l : SenderLoop} {h : Handled} (watches : Watches type l h) {since : Nat}
    (waiting : (l.watchdog type).waitingSince = some since) (busy : l.inFlight type ≠ 0) (going : h.exit = none)
    (silent : h.acknowledges type = false) : h.loop.watchdog type = l.watchdog type := by
  have kept := watches.kept going silent
  have since' := watches.waiting going
  have acked := watches.acked going
  have sent : h.notes type = sentNotes type h.sent := by
    rw [Handled.notes,silent]
    rfl
  rw [if_neg (by omega),sent,waiting,sentKeeps,← waiting] at since'
  rw [silent,Bool.or_false] at acked
  cases watchdog : l.watchdog type with
  | mk waitingSince hasAcknowledged =>
    rw [watchdog] at since' acked
    cases after : h.loop.watchdog type with
    | mk waitingSince' hasAcknowledged' =>
      rw [after] at since' acked
      rw [show waitingSince' = waitingSince from since',show hasAcknowledged' = hasAcknowledged from acked]

def exampleVideo : StreamParameters :=
  ⟨50001,2,101,90000,millis 400,false,Vector.replicate 16 7,Vector.replicate 16 9,1472,roomIpv4⟩

def exampleReceiver : SocketAddr := .v4 0x0A000001 2344

def exampleFlush (now : Nat) : Flush := ⟨now,fun _ data => .ok data.length,fun _ => now⟩

def exampleFrame (length mediaTimestamp : Nat) : EncodedFrame :=
  ⟨.keyFrame,List.replicate length 0,mediaTimestamp,0,none⟩

def enqueueAtStart (frame : EncodedFrame) : SenderAction :=
  .take (.enqueueFrame .video frame (exampleFlush 0) 0) fun _ => ⟨0,0⟩

theorem watchdogExact (aes : BlockCipher) (remote : SocketAddr) (audio video : Option (StreamParameters × UInt16))
    (now : Nat) (actions : List SenderAction) :
    let final := SenderRun.run aes remote (Session.start audio video) now actions
    let l := final.1.loop
    final.1.result = none →
      (∀ type, (l.watchdog type).waitingSince = waitingFrom (period type final.2) ∧
        ((l.watchdog type).waitingSince ≠ none → l.inFlight type ≠ 0) ∧
        ∀ input, (l.watchdog type).waitingSince ≠ none → (l.handle aes remote input).exit = none →
          (l.handle aes remote input).acknowledges type = false →
          (l.handle aes remote input).loop.watchdog type = l.watchdog type) ∧
      ∀ audioAt videoAt,
        (l.handle aes remote (.timeoutTick audioAt videoAt)).exit = some (.error .receiverTimedOut) ↔
          ∃ type since, l.inFlight type ≠ 0 ∧ waitingFrom (period type final.2) = some since ∧
            (if everAcknowledged type final.2 then 5*10^9 else 10*10^9) ≤ polledAt audioAt videoAt type-since := by
  intro final l running
  have watching : Watching l final.2 := runWatching aes remote audio video now actions running
  have busy (type : StreamType) (waiting : (l.watchdog type).waitingSince ≠ none) : l.inFlight type ≠ 0 :=
    fun nothing => waiting (watching.ready.idle type nothing)
  refine ⟨fun type => ⟨watching.waiting type,busy type,fun input waiting going silent => ?_⟩,fun audioAt videoAt => ?_⟩
  · obtain ⟨since,waitingSince⟩ := Option.ne_none_iff_exists'.mp waiting
    exact deadlineKept (handleWatches watching.ready aes remote input) waitingSince (busy type waiting) going silent
  · refine (pollIff l audioAt videoAt).trans ?_
    have timeout (type : StreamType) : (l.watchdog type).timeout =
        if everAcknowledged type final.2 then 5*10^9 else 10*10^9 := by
      rw [AcknowledgementWatchdog.timeout,watching.acked]
      rfl
    simp only [timeout,watching.waiting]

theorem silentReceiverTimesOut :
    let final := SenderRun.run (fun _ block => block) exampleReceiver (Session.start none (some (exampleVideo,0))) 0
      [enqueueAtStart (exampleFrame 1 0)]
    final.1.result = none ∧
      (final.1.loop.handle (fun _ block => block) exampleReceiver (.timeoutTick 0 (10*10^9))).exit =
        some (.error .receiverTimedOut) := by
  intro final
  have running : final.1.result = none := Option.isNone_iff_eq_none.mp (by decide +kernel)
  obtain ⟨_,poll⟩ := watchdogExact (fun _ block => block) exampleReceiver none (some (exampleVideo,0)) 0
    [enqueueAtStart (exampleFrame 1 0)] running
  exact ⟨running,(poll 0 (10*10^9)).mpr ⟨.video,0,by decide +kernel,by decide +kernel,by decide +kernel⟩⟩

def laterOf (notes : List Note) : Option Nat :=
  match lastAcknowledged notes,firstSent notes with
  | some acknowledged,some sent => some (max acknowledged sent)
  | some acknowledged,none => some acknowledged
  | none,sent => sent

theorem flushWhole (type : StreamType) (operation : String) {flush : Flush}
    (whole : ∀ k data, flush.sendTo k data = .ok data.length) {size : Nat} (rounds k : Nat) {s : StreamState}
    (watchdog : AcknowledgementWatchdog) {b : BurstBudget} (drained : s.retransmitQueue = [])
    (uniform : ∀ q ∈ s.sendQueue, q.packet.data.length = size) (count : s.sendQueue.length = rounds)
    (credit : rounds*size < b.availableBytes+size) (packets : s.rtpPacketsSent+rounds < 2^64)
    (octets : s.rtpOctetsSent+rounds*(size-rtpStandardHeaderSize) < 2^64) :
    let flushed := flushRounds type operation flush rounds k s watchdog b
    flushed.stream = {s with
      sendQueue := []
      rtpPacketsSent := s.rtpPacketsSent+rounds
      rtpOctetsSent := s.rtpOctetsSent+rounds*(size-rtpStandardHeaderSize)} ∧
    flushed.budget = {b with availableBytes := b.availableBytes-rounds*size} ∧ flushed.result = .ok () := by
  induction rounds generalizing k s watchdog b with
  | zero =>
    have empty : s.sendQueue = [] := List.length_eq_zero_iff.mp count
    refine ⟨?_,?_,rfl⟩
    · simp only [flushRounds,Nat.zero_mul,Nat.add_zero,← empty]
    · simp only [flushRounds,Nat.zero_mul,Nat.sub_zero]
  | succ rounds ih =>
    cases queue : s.sendQueue with
    | nil => simp [queue] at count
    | cons q rest =>
      rw [Nat.add_mul,Nat.one_mul] at credit octets
      let t := StreamState.recordPacketSent {s with sendQueue := rest} size false
      have length : q.packet.data.length = size := uniform q (by simp [queue])
      have sent : s.nextPacket = (some ⟨q.packet,false⟩,{s with sendQueue := rest}) := by
        simp [StreamState.nextPacket,drained,queue]
      have some' : b.hasCredit := by
        simp only [BurstBudget.hasCredit,decide_eq_true_eq]
        omega
      have wrote : sendDatagram q.packet.data operation (flush.sendTo k q.packet.data) = .ok () := by
        simp [sendDatagram,whole]
      have shorter : rest.length = rounds := by simpa [queue] using count
      have packetsFit : s.rtpPacketsSent+1 < 2^64 := by omega
      have octetsFit : s.rtpOctetsSent+(size-rtpStandardHeaderSize) < 2^64 := by omega
      have fewer : t.rtpPacketsSent = s.rtpPacketsSent+1 := Nat.mod_eq_of_lt packetsFit
      have less : t.rtpOctetsSent = s.rtpOctetsSent+(size-rtpStandardHeaderSize) := Nat.mod_eq_of_lt octetsFit
      obtain ⟨stream,budget,ok⟩ := ih (k+1) (s := t) (watchdog.packetSent (flush.sentAt k)) (b := b.consume size)
        drained (fun r member => uniform r (by rw [queue]; exact List.mem_cons_of_mem _ member)) shorter
        (by simp only [BurstBudget.consume]; omega) (by omega) (by omega)
      simp only [flushRounds,some',if_true,sent,wrote,length]
      refine ⟨stream.trans ?_,budget.trans ?_,ok⟩
      · rw [fewer,less,Nat.add_assoc,Nat.add_assoc,Nat.add_comm 1,Nat.add_comm (size-rtpStandardHeaderSize),
          Nat.add_mul rounds,Nat.one_mul]
        rfl
      · rw [BurstBudget.consume,Nat.sub_sub,Nat.add_mul rounds,Nat.one_mul,Nat.add_comm size]

def acknowledgeAtStart (checkpoint : UInt8) : SenderAction :=
  .take (.received ([0x8F,206] ++ be 2 4 ++ be 4 2 ++ be 4 50001 ++ [0x43,0x41,0x53,0x54,checkpoint,0] ++ be 2 400)
    exampleReceiver ⟨0,0,0⟩ (exampleFlush 0) 0) fun _ => ⟨0,0⟩

/- The first frame uses up the credit and is acknowledged; of the two frames that then have to
wait, the receiver acknowledges the first one before either has been sent. -/
def acknowledgedUnsent : List SenderAction :=
  [acknowledgeAtStart 0,enqueueAtStart (exampleFrame 1 1),enqueueAtStart (exampleFrame 1 2),acknowledgeAtStart 1,
    .take (.burstTick (exampleFlush (millis 10))) fun _ => ⟨0,0⟩]

def exampleRun : SenderRun × List (Option Handled) :=
  SenderRun.run (fun _ block => block) exampleReceiver (Session.start none (some (exampleVideo,0))) 0
    (enqueueAtStart (exampleFrame 166635 0)::acknowledgedUnsent)

theorem acceptPacketizer (aes : BlockCipher) {s : StreamState} (empty : s.sendQueue = []) {frame : EncodedFrame}
    {n : Nat} (count : (s.acceptFrame aes frame).sendQueue.length = n) :
    (s.acceptFrame aes frame).packetizer = s.packetizer.after n := by
  have queued : (s.acceptFrame aes frame).sendQueue.length = (s.packetized aes frame).1.length := by
    simp [StreamState.acceptFrame,empty]
  rw [← count,queued,StreamState.packetized,RtpPacketizer.packetizeCount]
  exact congrArg Prod.snd (RtpPacketizer.packetizeSpec s.packetizer (s.fields frame) _)

def spent (s : StreamState) (packetizer : RtpPacketizer) : StreamState :=
  {s with packetizer := packetizer, sendQueue := [], rtpPacketsSent := 115, rtpOctetsSent := 115*1456}

theorem flushSpent {s : StreamState} {flush : Flush} (whole : ∀ k data, flush.sendTo k data = .ok data.length)
    {watchdog : AcknowledgementWatchdog} (drained : s.retransmitQueue = []) (count : s.sendQueue.length = 115)
    (uniform : ∀ q ∈ s.sendQueue, q.packet.data.length = 1468) (packets : s.rtpPacketsSent = 0)
    (octets : s.rtpOctetsSent = 0) :
    let flushed := flushRounds .video "send video RTP packet" flush s.queued 0 s watchdog (.new 0)
    flushed = ⟨spent s s.packetizer,flushed.watchdog,⟨167772,0,0,0⟩,flushed.sent,.ok ()⟩ := by
  have rounds : s.queued = 115 := by rw [StreamState.queued,drained,count,List.length_nil,Nat.zero_add]
  rw [rounds]
  obtain ⟨stream,budget,ok⟩ := flushWhole .video "send video RTP packet" whole 115 0 watchdog (b := .new 0) drained
    uniform count (by decide) (by rw [packets]; decide) (by rw [octets]; decide)
  rw [packets,octets] at stream
  have left : (BurstBudget.mk 167772 0 0 0) = {BurstBudget.new 0 with
    availableBytes := (BurstBudget.new 0).availableBytes-115*1468} := by decide
  rw [left,← budget,← ok]
  exact congrArg (fun s => Flushed.mk s _ _ _ _) stream

def exampleAccepted : StreamState :=
  Pacer.exampleStream.acceptFrame (fun _ block => block) (exampleFrame 166635 0)

def exampleSpent : StreamState := spent exampleAccepted (Pacer.exampleStream.packetizer.after 115)

def firstFlush : Flushed :=
  flushRounds .video "send video RTP packet" (exampleFlush 0) exampleAccepted.queued 0 exampleAccepted .new (.new 0)

theorem firstFlushed : firstFlush = ⟨exampleSpent,firstFlush.watchdog,⟨167772,0,0,0⟩,firstFlush.sent,.ok ()⟩ := by
  have length : (exampleFrame 166635 0).data.length = 115*1449 := by rw [exampleFrame,List.length_replicate]
  obtain ⟨drained,count,uniform⟩ := Pacer.largeQueue (fun _ block => block) (by decide) length
  have packetizer : exampleAccepted.packetizer = Pacer.exampleStream.packetizer.after 115 :=
    acceptPacketizer (fun _ block => block) rfl count
  rw [exampleSpent,← packetizer]
  exact flushSpent (fun _ _ => rfl) drained count uniform rfl rfl

theorem acceptFeedbackState (aes : BlockCipher) (s : StreamState) (frame : EncodedFrame) :
    (s.acceptFrame aes frame).statistics.feedbackState = {s.statistics.feedbackState with
      pressureLimited := (s.acceptFrame aes frame).statistics.feedbackState.pressureLimited} := rfl

theorem firstUnnoticed : exampleAccepted.statistics.feedbackState = Pacer.exampleStream.statistics.feedbackState := by
  have limited : exampleAccepted.statistics.feedbackState.pressureLimited =
      Pacer.exampleStream.statistics.feedbackState.pressureLimited := by decide +kernel
  rw [exampleAccepted] at limited ⊢
  rw [acceptFeedbackState,limited]

theorem enqueueAlone (aes : BlockCipher) {s t u : StreamState} {frame : EncodedFrame} {id : Int} {flush : Flush}
    (accepted : s.enqueueFrame aes frame = (.ok id,t))
    (unnoticed : t.statistics.feedbackState = s.statistics.feedbackState)
    {audio video watchdog : AcknowledgementWatchdog} {budget left : BurstBudget} {sent : List Transmission}
    (flushed : flushRounds .video "send video RTP packet" flush t.queued 0 t video (budget.refill flush.refilledAt) =
      ⟨u,watchdog,left,sent,.ok ()⟩) (pending : Bool) (deadline now : Nat) :
    SenderLoop.onEnqueueFrame aes ⟨⟨none,some s⟩,audio,video,budget,pending,deadline⟩ .video frame flush now =
      {loop := ⟨⟨none,some u⟩,audio,watchdog,left,pending,deadline⟩
       reply := some (.enqueued (.ok id))
       sent := sent} := by
  have queued : SenderLoop.flushQueuedPackets ⟨⟨none,some t⟩,audio,video,budget,pending,deadline⟩ flush =
      (⟨⟨none,some u⟩,audio,watchdog,left,pending,deadline⟩,sent,.ok ()) :=
    congrArg (fun f : Flushed => (SenderLoop.mk ⟨none,some f.stream⟩ audio f.watchdog f.budget pending deadline,f.sent,
      f.result)) flushed
  have same : Session.streamFeedbackState ⟨none,some s⟩ .video = Session.streamFeedbackState ⟨none,some t⟩ .video :=
    congrArg some unnoticed.symm
  simp only [SenderLoop.onEnqueueFrame,Session.get,accepted,Session.put,SenderLoop.thenFlush,queued,same]
  simp [SenderLoop.publish]

def exhausted : Handled :=
  {loop := ⟨⟨none,some exampleSpent⟩,.new,firstFlush.watchdog,⟨167772,0,0,0⟩,false,millis 100⟩
   reply := some (.enqueued (.ok 0))
   sent := firstFlush.sent}

theorem firstExhausts : (SenderLoop.new (Session.start none (some (exampleVideo,0))) 0).onEnqueueFrame
    (fun _ block => block) .video (exampleFrame 166635 0) (exampleFlush 0) 0 = exhausted := by
  have nonempty : (exampleFrame 166635 0).data ≠ [] := List.ne_nil_of_length_pos (by
    rw [exampleFrame,List.length_replicate]
    decide)
  have accepted : Pacer.exampleStream.enqueueFrame (fun _ block => block) (exampleFrame 166635 0) =
      (.ok 0,exampleAccepted) := StreamState.enqueueNew (fun _ block => block) _ _ rfl nonempty
  have refilled : (BurstBudget.new 0).refill 0 = .new 0 := by decide
  have flushed : flushRounds .video "send video RTP packet" (exampleFlush 0) exampleAccepted.queued 0 exampleAccepted
      .new ((BurstBudget.new 0).refill 0) = ⟨exampleSpent,firstFlush.watchdog,⟨167772,0,0,0⟩,firstFlush.sent,.ok ()⟩ := by
    rw [refilled]
    exact firstFlushed
  have start : SenderLoop.new (Session.start none (some (exampleVideo,0))) 0 =
    ⟨⟨none,some Pacer.exampleStream⟩,.new,.new,.new 0,false,millis 100⟩ := rfl
  rw [start,enqueueAlone (fun _ block => block) accepted firstUnnoticed flushed,exhausted]

theorem exampleStarts : exampleRun =
    let rest := Machine.run (SenderRun.step (fun _ block => block) exampleReceiver)
      ⟨exhausted.loop,none,.new eventSlots⟩ acknowledgedUnsent
    (rest.1,some exhausted::rest.2) := by
  have first : SenderRun.step (fun _ block => block) exampleReceiver
      (.new (Session.start none (some (exampleVideo,0))) 0) (enqueueAtStart (exampleFrame 166635 0)) =
      (⟨exhausted.loop,none,.new eventSlots⟩,some exhausted) :=
    congrArg (fun h : Handled => (SenderRun.mk h.loop h.exit (Channel.emitAll reservedTerminalEventSlots
      (fun _ => ⟨0,0⟩) 0 (.new eventSlots) h.emissions),some h)) firstExhausts
  rw [exampleRun,SenderRun.run,Machine.runCons,first]

/- What the source waits from is not always the later of the two times: here the first packet
since the stream had nothing in flight goes out after the acknowledgement. -/
theorem acknowledgedBeforeSent : exampleRun.1.result.isNone ∧ exampleRun.1.loop.videoWatchdog.waitingSince = some 0 ∧
    laterOf (period .video exampleRun.2) = some 10000000 := by
  rw [exampleStarts]
  decide +kernel

end Chromiacast
