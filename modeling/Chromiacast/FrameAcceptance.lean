import Chromiacast.RtcpFields
import Chromiacast.RtpRoundTrip
import Chromiacast.SenderLoop

/-! Which frames a stream takes, that it refuses the others without a trace, and
which packets announce a new playout delay. The delay in the extension is the
last one set since the previous accepted frame, in whole milliseconds and 16 bits. -/
namespace Chromiacast
open Basis

/- The adaptive latency extension of a datagram: an extension count in the Cast
header, then type 1 and size 2 in front of the delay. -/
def RtpPacket.adaptiveLatency (packet : RtpPacket) : Option UInt16 :=
  let extHeader := u16At packet.data 19
  if byteAt packet.data 12 &&& 0x3F ≠ 0 ∧ extHeader >>> 10 = 1 ∧ extHeader &&& 0x3FF = 2 then
    some (u16At packet.data 21)
  else none

theorem u16AtEncoded (front rest : Bytes) (value : UInt16) :
    u16At (front ++ (be 2 value.toNat ++ rest)) front.length = value := by
  have pair : be 2 value.toNat = [UInt8.ofNat (value.toNat/256),UInt8.ofNat value.toNat] := rfl
  have bytes : u16At (front ++ (be 2 value.toNat ++ rest)) front.length = UInt16.ofNat (readBE (be 2 value.toNat)) := by
    simp [u16At,byteAt,u16FromBeBytes,pair]
  rw [bytes,readBeExact value.toNat_lt,UInt16.ofNat_toNat]

namespace RtpPacketizer

theorem packetLayout (p : RtpPacketizer) (f : FrameFields) (count : Nat) (payload : Bytes) (i : Nat) :
    ∃ (front : Bytes) (counting : UInt8) (middle : Bytes), front.length = 12 ∧ middle.length = 6 ∧
      (p.packet f count payload i).data = front ++ counting::(middle ++ (extension f i ++ p.chunk payload i)) ∧
      (counting &&& 0x3F).toNat = if i = 0 ∧ f.newPlayoutDelay.isSome then 1 else 0 := by
  obtain ⟨extensions,_⟩ := castByte (decide (i = 0 ∧ f.newPlayoutDelay.isSome)) f.isKeyFrame
  simp only [decide_eq_true_eq] at extensions
  refine ⟨[rtpRequiredFirstByte,(if i = count-1 then 0x80 else 0x00) ||| (p.payloadType &&& 0x7F)] ++
      be 2 p.sequenceNumber.toNat ++ be 4 f.rtpTimestamp.toNat ++ be 4 p.syncSource.toNat,_,
    [FrameId.truncate f.frameId] ++ be 2 (UInt16.ofNat i).toNat ++ be 2 (UInt16.ofNat (count-1)).toNat ++
      [FrameId.truncate f.referencedFrameId],by simp,by simp,?_,extensions⟩
  simp only [packet,List.append_assoc,List.cons_append,List.nil_append]

theorem packetLatency (p : RtpPacketizer) (f : FrameFields) (count : Nat) (payload : Bytes) (i : Nat) :
    (p.packet f count payload i).adaptiveLatency =
      if i = 0 then f.newPlayoutDelay.map (fun delay => UInt16.ofNat (delay/1000000)) else none := by
  obtain ⟨front,counting,middle,twelve,six,layout,extended⟩ := packetLayout p f count payload i
  have byte : byteAt (p.packet f count payload i).data 12 = counting := by
    simp [byteAt,layout,twelve]
  rw [RtpPacket.adaptiveLatency,byte]
  by_cases carries : i = 0 ∧ f.newPlayoutDelay.isSome
  · obtain ⟨rfl,some'⟩ := carries
    obtain ⟨delay,given⟩ := Option.isSome_iff_exists.mp some'
    have here : extension f 0 = be 2 (1026 : UInt16).toNat ++ be 2 (UInt16.ofNat (delay/1000000)).toNat := by
      simp only [extension,given]
      rfl
    have header : u16At (p.packet f count payload 0).data 19 = 1026 := by
      have value := u16AtEncoded (front ++ counting::middle)
        (be 2 (UInt16.ofNat (delay/1000000)).toNat ++ p.chunk payload 0) 1026
      simpa [layout,here,twelve,six] using value
    have body : u16At (p.packet f count payload 0).data 21 = UInt16.ofNat (delay/1000000) := by
      have value := u16AtEncoded (front ++ counting::(middle ++ be 2 (1026 : UInt16).toNat)) (p.chunk payload 0)
        (UInt16.ofNat (delay/1000000))
      simpa [layout,here,twelve,six] using value
    have counted : counting &&& 0x3F ≠ 0 := fun zero => by simp [zero,some'] at extended
    simp only [header,body]
    rw [if_pos ⟨counted,by decide,by decide⟩,if_pos trivial,given]
    rfl
  · rw [if_neg carries] at extended
    have uncounted : counting &&& 0x3F = 0 := UInt8.toNat_inj.mp extended
    rw [if_neg (fun present => present.1 uncounted)]
    split
    · rename_i first
      have absent : f.newPlayoutDelay = none := Option.not_isSome_iff_eq_none.mp fun some' => carries ⟨first,some'⟩
      rw [absent]
      rfl
    · rfl

end RtpPacketizer

def validPlayoutDelay (delay : Nat) : Bool :=
  let milliseconds := delay/1000000
  1 ≤ milliseconds && milliseconds ≤ 0xFFFF && delay = millis milliseconds

theorem validDelayExact {delay : Nat} (valid : validPlayoutDelay delay) :
    (UInt16.ofNat (delay/1000000)).toNat*1000000 = delay := by
  simp only [validPlayoutDelay,millis,Bool.and_eq_true,decide_eq_true_eq] at valid
  rw [UInt16.toNat_ofNat',Nat.mod_eq_of_lt (by omega)]
  exact (of_decide_eq_true valid.2).symm

namespace StreamState

def Operation.sets : Operation → Option Nat
  | .setTargetPlayoutDelay delay => some delay
  | _ => none

abbrev History := List (Operation × Output)

/- `delay` was set, and nothing since then set another or accepted a frame. -/
def AppliedSince (history : History) (delay : Nat) : Prop :=
  ∃ before output after, history = before ++ (.setTargetPlayoutDelay delay,output)::after ∧
    ∀ entry ∈ after, entry.1.sets = none ∧ entry.2.accepts = []

theorem setsDelay {operation : Operation} {delay : Nat} :
    operation.sets = some delay ↔ operation = .setTargetPlayoutDelay delay := by
  cases operation <;> simp [Operation.sets]

theorem notApplied (delay : Nat) : ¬ AppliedSince [] delay := by
  intro ⟨before,output,after,split,_⟩
  simp at split

theorem appliedSnoc {history : History} {entry : Operation × Output} {delay : Nat} :
    AppliedSince (history ++ [entry]) delay ↔ entry.1.sets = some delay ∨
      entry.1.sets = none ∧ entry.2.accepts = [] ∧ AppliedSince history delay := by
  constructor
  · intro ⟨before,output,after,split,quiet⟩
    rcases List.eq_nil_or_concat after with rfl | ⟨earlier,last,rfl⟩
    · obtain ⟨_,same⟩ := List.append_inj' split rfl
      cases List.singleton_inj.mp same
      exact .inl rfl
    · rw [List.concat_eq_append,← List.cons_append,← List.append_assoc] at split
      obtain ⟨rfl,same⟩ := List.append_inj' split rfl
      cases List.singleton_inj.mp same
      obtain ⟨unset,unaccepted⟩ := quiet entry (by simp)
      exact .inr ⟨unset,unaccepted,before,output,earlier,rfl,fun other member => quiet other (by simp [member])⟩
  · intro applied
    rcases applied with set | ⟨unset,unaccepted,before,output,after,rfl,quiet⟩
    · exact ⟨history,entry.2,[],by rw [← setsDelay.mp set],by simp⟩
    · refine ⟨before,output,after ++ [entry],by simp,?_⟩
      intro other member
      rcases List.mem_append.mp member with earlier | last
      · exact quiet other earlier
      · cases List.mem_singleton.mp last
        exact ⟨unset,unaccepted⟩

structure Intake (s : StreamState) (history : History) : Prop where
  window : Window s
  next : s.nextFrameId = (acceptedFrames (history.map Prod.snd)).length
  last : s.lastMediaTimestamp =
    (acceptedFrames (history.map Prod.snd)).getLast?.map fun entry => entry.2.mediaTimestamp
  delay : ∀ delay, s.pendingPlayoutDelay = some delay ↔ AppliedSince history delay

theorem newIntake (parameters : StreamParameters) (sequenceNumber : UInt16) :
    Intake (new parameters sequenceNumber) [] where
  window := newWindow parameters sequenceNumber
  next := rfl
  last := rfl
  delay := by simp [new,notApplied]

theorem acceptedFramesSnoc (history : History) (entry : Operation × Output) :
    acceptedFrames ((history ++ [entry]).map Prod.snd) =
      acceptedFrames (history.map Prod.snd) ++ entry.2.accepts := by
  simp [acceptedFrames]

theorem Intake.keep {s t : StreamState} {history : History} {operation : Operation} {output : Output}
    (i : Intake s history) (window : Window t) (same : t.outgoing = s.outgoing) (unset : operation.sets = none)
    (unaccepted : output.accepts = []) : Intake t (history ++ [(operation,output)]) where
  window := window
  next := by
    rw [acceptedFramesSnoc,unaccepted,List.append_nil,← i.next]
    exact congrArg Outgoing.nextFrameId same
  last := by
    rw [acceptedFramesSnoc,unaccepted,List.append_nil,← i.last]
    exact congrArg Outgoing.lastMediaTimestamp same
  delay := by
    have pending : t.pendingPlayoutDelay = s.pendingPlayoutDelay := congrArg Outgoing.pendingPlayoutDelay same
    intro delay
    rw [appliedSnoc,pending,i.delay]
    simp [unset,unaccepted]

theorem Intake.accept {s : StreamState} {history : History} (i : Intake s history) (aes : BlockCipher)
    (frame : EncodedFrame) (room : s.inFlightIdSpan < maxUnackedFrames) : Intake (s.acceptFrame aes frame)
      (history ++ [(.enqueueFrame frame,.accepted s.nextFrameId frame (s.packetized aes frame).1)]) where
  window := acceptWindow i.window room aes frame
  next := by
    have next : (s.acceptFrame aes frame).nextFrameId = s.nextFrameId+1 := rfl
    rw [acceptedFramesSnoc,next,i.next,List.length_append]
    rfl
  last := by
    rw [acceptedFramesSnoc]
    simp [Output.accepts,acceptFrame]
  delay := by
    intro delay
    rw [appliedSnoc]
    simp [acceptFrame,Operation.sets,Output.accepts]

theorem Intake.set {s : StreamState} {history : History} (i : Intake s history) (delay : Nat) :
    Intake (s.setTargetPlayoutDelay delay) (history ++ [(.setTargetPlayoutDelay delay,.done)]) where
  window := ⟨i.window.placed,i.window.start,i.window.low,i.window.high,i.window.inside,i.window.ackedFits,
    i.window.nackedFits⟩
  next := by
    rw [acceptedFramesSnoc]
    exact i.next.trans (by simp [Output.accepts])
  last := by
    rw [acceptedFramesSnoc]
    exact i.last.trans (by simp [Output.accepts])
  delay := by
    intro other
    rw [appliedSnoc]
    simp [setTargetPlayoutDelay,Operation.sets]

inductive Moves (aes : BlockCipher) (s : StreamState) : Operation → StreamState → Output → Prop where
  | accepted (frame : EncodedFrame) (room : s.inFlightIdSpan < maxUnackedFrames) :
      Moves aes s (.enqueueFrame frame) (s.acceptFrame aes frame)
        (.accepted s.nextFrameId frame (s.packetized aes frame).1)
  | set (delay : Nat) : Moves aes s (.setTargetPlayoutDelay delay) (s.setTargetPlayoutDelay delay) .done
  | kept {operation : Operation} {t : StreamState} {output : Output} (same : t.outgoing = s.outgoing)
      (unset : operation.sets = none) (unaccepted : output.accepts = []) : Moves aes s operation t output

theorem stepMoves (aes : BlockCipher) (s : StreamState) (operation : Operation) :
    Moves aes s operation (step aes s operation).1 (step aes s operation).2 := by
  cases operation with
  | enqueueFrame frame =>
    rcases enqueueCases aes s frame with ⟨_,room,result⟩ | ⟨error,result⟩
    · simp only [step,result]
      exact .accepted frame room
    · simp only [step,result,rejectFrame]
      exact .kept rfl rfl rfl
  | castFeedback feedback => exact .kept (outgoingUnfed.processCast s feedback) rfl rfl
  | nextPacket =>
    refine .kept ?_ rfl rfl
    obtain ⟨_,_,written⟩ := s.nextPacketWrites
    simp only [step,written,outgoing]
  | recordPacketSent size retransmission =>
    refine .kept ?_ rfl rfl
    obtain ⟨_,_,_,written⟩ := s.recordPacketSentWrites size retransmission
    simp only [step,written,outgoing]
  | setTargetPlayoutDelay delay => exact .set delay
  | recordSenderReport => exact .kept rfl rfl rfl
  | receiverReport report receivedAt =>
    refine .kept ?_ rfl rfl
    obtain ⟨_,written⟩ := s.updateReceiverReportWrites report receivedAt
    simp only [step,written,outgoing]
  | receiverReferenceTime => exact .kept rfl rfl rfl

theorem Intake.moved {aes : BlockCipher} {s t : StreamState} {history : History} {operation : Operation}
    {output : Output} (i : Intake s history) (window : Window t) (moves : Moves aes s operation t output) :
    Intake t (history ++ [(operation,output)]) := by
  cases moves with
  | accepted frame room => exact i.accept aes frame room
  | set delay => exact i.set delay
  | kept same unset unaccepted => exact i.keep window same unset unaccepted

theorem stepIntake (aes : BlockCipher) {s : StreamState} {history : History} (i : Intake s history)
    (operation : Operation) : Intake (step aes s operation).1 (history ++ [(operation,(step aes s operation).2)]) :=
  i.moved (effectWindow i.window (stepEffect aes s operation)) (stepMoves aes s operation)

def history (aes : BlockCipher) (parameters : StreamParameters) (sequenceNumber : UInt16)
    (operations : List Operation) : History :=
  operations.zip (run aes parameters sequenceNumber operations).2

theorem runIntake (aes : BlockCipher) (parameters : StreamParameters) (sequenceNumber : UInt16)
    (operations : List Operation) : Intake (run aes parameters sequenceNumber operations).1
      (history aes parameters sequenceNumber operations) :=
  Machine.runHistory (step aes) (newIntake parameters sequenceNumber)
    (fun _ _ operation i => stepIntake aes i operation) operations

theorem historyOutputs (aes : BlockCipher) (parameters : StreamParameters) (sequenceNumber : UInt16)
    (operations : List Operation) : (history aes parameters sequenceNumber operations).map Prod.snd =
      (run aes parameters sequenceNumber operations).2 :=
  List.map_snd_zip (Machine.runLength ..).le

theorem acceptIff (aes : BlockCipher) (s : StreamState) (frame : EncodedFrame) :
    (∃ id, (s.enqueueFrame aes frame).1 = .ok id) ↔ frame.data ≠ [] ∧
      (s.nextFrameId = FrameId.first → frame.dependency = .keyFrame) ∧
      (∀ last, s.lastMediaTimestamp = some last → last < frame.mediaTimestamp) ∧
      s.inFlightIdSpan < maxUnackedFrames := by
  have stale : s.lastMediaTimestamp.any (fun last => frame.mediaTimestamp ≤ last) ↔
      ¬ ∀ last, s.lastMediaTimestamp = some last → last < frame.mediaTimestamp := by
    cases s.lastMediaTimestamp <;> simp
  have refused (error : EnqueueError) : ¬ ∃ id, (s.rejectFrame error).1 = .ok id := by simp [rejectFrame]
  unfold enqueueFrame
  split
  · rename_i empty
    exact iff_of_false (refused _) fun checks => checks.1 (List.isEmpty_iff.mp empty)
  · rename_i filled
    split
    · rename_i delta
      exact iff_of_false (refused _) fun checks => delta.2 (checks.2.1 delta.1)
    · rename_i keyed
      split
      · rename_i late
        exact iff_of_false (refused _) fun checks => stale.mp late checks.2.2.1
      · rename_i later
        split
        · rename_i full
          exact iff_of_false (refused _) fun checks => by omega
        · rename_i room
          refine iff_of_true ⟨_,rfl⟩ ⟨by simpa using filled,?_,not_not.mp (later ∘ stale.mpr),by omega⟩
          exact fun first => not_not.mp fun delta => keyed ⟨first,delta⟩

theorem packetizedLatency (aes : BlockCipher) (s : StreamState) (frame : EncodedFrame) :
    ∃ first rest, (s.packetized aes frame).1 = first::rest ∧
      first.adaptiveLatency = s.pendingPlayoutDelay.map (fun delay => UInt16.ofNat (delay/1000000)) ∧
      ∀ packet ∈ rest, packet.adaptiveLatency = none := by
  obtain ⟨n,count⟩ : ∃ n, s.packetizer.numPackets (s.crypto.encrypt aes s.nextFrameId frame.data) = n+1 :=
    Nat.exists_eq_succ_of_ne_zero (RtpPacketizer.numPacketsPositive ..).ne'
  rw [packetized,RtpPacketizer.packetizeSpec,count,List.range_succ_eq_map,List.map_cons]
  refine ⟨_,_,rfl,RtpPacketizer.packetLatency ..,?_⟩
  intro packet member
  rw [List.map_map] at member
  obtain ⟨i,_,rfl⟩ := List.mem_map.mp member
  exact RtpPacketizer.packetLatency ..

end StreamState

/- `set_target_playout_delay` of the session's owner. What fails before the command is
sent does not reach the loop; a loop that has returned answers nothing. -/
def SenderSession.setTargetPlayoutDelay (aes : BlockCipher) (remoteAddress : SocketAddr)
    (supportsAdaptivePlayoutDelay : Bool) (r : SenderRun) (delay debouncedAt : Nat) :
    Except PlayoutDelayError Unit × SenderLoop :=
  if !validPlayoutDelay delay then (.error .invalidDelay,r.loop)
  else if !supportsAdaptivePlayoutDelay then (.error .unsupported,r.loop)
  else
    match r.result with
    | some _ => (.error .sessionClosed,r.loop)
    | none =>
      let handled := r.loop.handle aes remoteAddress (.setTargetPlayoutDelay delay debouncedAt)
      match handled.reply with
      | some (.playoutDelay result) => (result,handled.loop)
      | _ => (.error .sessionClosed,handled.loop)

theorem sessionDelayCases (s : Session) (delay : Nat) : s.setTargetPlayoutDelay delay = (.error .unsupported,s) ∨
    s.setTargetPlayoutDelay delay = (.ok (),⟨s.audio.map (·.setTargetPlayoutDelay delay),
      s.video.map (·.setTargetPlayoutDelay delay)⟩) := by
  unfold Session.setTargetPlayoutDelay
  split
  · exact .inl rfl
  · exact .inr rfl

theorem sessionDelay (aes : BlockCipher) (remoteAddress : SocketAddr) (supported : Bool) (r : SenderRun)
    {delay : Nat} (valid : validPlayoutDelay delay) (debouncedAt : Nat) :
    let result := SenderSession.setTargetPlayoutDelay aes remoteAddress supported r delay debouncedAt
    (result.1 = .ok () ∧ result.2.session = ⟨r.loop.session.audio.map (·.setTargetPlayoutDelay delay),
      r.loop.session.video.map (·.setTargetPlayoutDelay delay)⟩) ∨
    (result.1 = .error .unsupported ∧ result.2 = r.loop) ∨
    (r.result.isSome ∧ result.1 = .error .sessionClosed ∧ result.2 = r.loop) := by
  simp only [SenderSession.setTargetPlayoutDelay,valid,Bool.not_true,Bool.false_eq_true,if_false]
  cases supported with
  | false => exact .inr (.inl ⟨rfl,rfl⟩)
  | true =>
    cases ended : r.result with
    | some result => exact .inr (.inr ⟨rfl,rfl,rfl⟩)
    | none =>
      simp only [SenderLoop.handle,SenderLoop.onSetTargetPlayoutDelay]
      rcases sessionDelayCases r.loop.session delay with result | result
      · simp only [result]
        exact .inr (.inl ⟨rfl,rfl⟩)
      · simp only [result]
        exact .inl ⟨rfl,SenderLoop.publishSession ..⟩

namespace StreamState

theorem frameAcceptance (aes : BlockCipher) (parameters : StreamParameters) (sequenceNumber : UInt16)
    (operations : List Operation) :
    let s := (run aes parameters sequenceNumber operations).1
    let earlier := acceptedFrames (run aes parameters sequenceNumber operations).2
    let applied := AppliedSince (history aes parameters sequenceNumber operations)
    (∀ frame : EncodedFrame,
      ((∃ id, (s.enqueueFrame aes frame).1 = .ok id) ↔ frame.data ≠ [] ∧
        (earlier = [] → frame.dependency = .keyFrame) ∧
        (∀ last, earlier.getLast? = some last → last.2.mediaTimestamp < frame.mediaTimestamp) ∧
        s.inFlightIdSpan < 120) ∧
      (∀ error, (s.enqueueFrame aes frame).1 = .error error → (s.enqueueFrame aes frame).2 =
        {s with framesDroppedOrSkipped := saturatingAdd s.framesDroppedOrSkipped 1}) ∧
      ∀ id, (s.enqueueFrame aes frame).1 = .ok id → ∃ (pending : PendingFrame) (first : RtpPacket)
        (rest : List RtpPacket), (s.enqueueFrame aes frame).2.find id = some pending ∧
        pending.packets = first::rest ∧
        (first.adaptiveLatency.isSome ↔ ∃ delay, applied delay) ∧
        (∀ delay, applied delay → first.adaptiveLatency = some (UInt16.ofNat (delay/1000000))) ∧
        (∀ delay, applied delay → validPlayoutDelay delay →
          first.adaptiveLatency.map (fun milliseconds => milliseconds.toNat*1000000) = some delay) ∧
        ∀ packet ∈ rest, packet.adaptiveLatency = none) ∧
    ∀ (remoteAddress : SocketAddr) (supported : Bool) (r : SenderRun) (delay debouncedAt : Nat),
      validPlayoutDelay delay →
      let result := SenderSession.setTargetPlayoutDelay aes remoteAddress supported r delay debouncedAt
      (result.1 = .ok () ∧ result.2.session = ⟨r.loop.session.audio.map (·.setTargetPlayoutDelay delay),
        r.loop.session.video.map (·.setTargetPlayoutDelay delay)⟩) ∨
      (result.1 = .error .unsupported ∧ result.2 = r.loop) ∨
      (r.result.isSome ∧ result.1 = .error .sessionClosed ∧ result.2 = r.loop) := by
  intro s earlier applied
  have i : Intake s (history aes parameters sequenceNumber operations) := runIntake ..
  have next := i.next
  have last := i.last
  rw [historyOutputs] at next last
  refine ⟨?_,fun remoteAddress supported r delay debouncedAt valid => sessionDelay aes remoteAddress supported r valid _⟩
  intro frame
  refine ⟨?_,?_,?_⟩
  · rw [acceptIff]
    have first : s.nextFrameId = FrameId.first ↔ earlier = [] := by
      rw [next,← List.length_eq_zero_iff]
      exact Int.natCast_eq_zero
    have later : (∀ t, s.lastMediaTimestamp = some t → t < frame.mediaTimestamp) ↔
        ∀ entry, earlier.getLast? = some entry → entry.2.mediaTimestamp < frame.mediaTimestamp := by
      simp only [last,Option.map_eq_some_iff]
      exact ⟨fun below entry final => below _ ⟨entry,final,rfl⟩,fun below _ ⟨entry,final,same⟩ => same ▸ below entry final⟩
    rw [first,later]
    rfl
  · intro error refused
    rcases enqueueCases aes s frame with ⟨_,_,result⟩ | ⟨_,result⟩
    · simp [result] at refused
    · rw [result]
      rfl
  · intro id taken
    rcases enqueueCases aes s frame with ⟨_,_,result⟩ | ⟨_,result⟩
    · rw [result] at taken ⊢
      cases Except.ok.inj taken
      obtain ⟨first,rest,split,carried,plain⟩ := packetizedLatency aes s frame
      refine ⟨_,first,rest,acceptedPending aes s frame,split,?_,?_,?_,plain⟩
      · rw [carried,Option.isSome_map,Option.isSome_iff_exists]
        exact exists_congr i.delay
      · intro delay set
        rw [carried,(i.delay delay).mpr set]
        rfl
      · intro delay set valid
        rw [carried,(i.delay delay).mpr set,Option.map_some,Option.map_some,validDelayExact valid]
    · simp [result,rejectFrame] at taken

/- A session that was shut down refuses a valid delay in a third way. And only the caller of the
session keeps delays below 65536 ms: in the extension of a stream that is told 65536 ms stands zero. -/
theorem delayRefusedOrTruncated :
    let session : Session := ⟨some (new exampleParameters 0),none⟩
    let r := (SenderRun.run (fun _ block => block) (.v4 0 0) session 0 [.take .shutdown fun _ => ⟨0,0⟩]).1
    let s := (run (fun _ block => block) exampleParameters 0 [.setTargetPlayoutDelay (millis 65536)]).1
    let frame : EncodedFrame := ⟨.keyFrame,[1],0,0,none⟩
    (validPlayoutDelay (millis 100) ∧ (SenderSession.setTargetPlayoutDelay (fun _ block => block) (.v4 0 0) true r
      (millis 100) 0).1 = .error .sessionClosed) ∧
    AppliedSince (history (fun _ block => block) exampleParameters 0 [.setTargetPlayoutDelay (millis 65536)])
      (millis 65536) ∧
    (s.enqueueFrame (fun _ block => block) frame).1 = .ok 0 ∧
    ((s.enqueueFrame (fun _ block => block) frame).2.find 0).map
      (fun pending => pending.packets.map RtpPacket.adaptiveLatency) = some [some 0] := by
  exact ⟨⟨by decide,rfl⟩,⟨[],.done,[],rfl,by simp⟩,by decide +kernel,by decide +kernel⟩

end StreamState
end Chromiacast
