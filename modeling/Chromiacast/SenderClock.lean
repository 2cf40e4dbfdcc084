import Chromiacast.FeedbackEncoding
import Chromiacast.FrameAcceptance

/-! The clocks in sender reports. The RTP clock of a report is projected from the
last accepted frame and is off by at most one tick; the NTP clock comes back from the
receiver in its middle 32 bits, by which the report's own record is found. -/
namespace Chromiacast
open Basis

/- Seconds and nanoseconds are scaled apart, yet the result is that of one division. The product
of the nanoseconds fits the source's 64 bits and its quotient the 32 it is cut to. -/
theorem mediaToRtpExact (duration : Nat) (timebase : UInt32) :
    (mediaToRtpTimestamp duration timebase).toNat = duration*timebase.toNat/1000000000 % 2^32 ∧
      duration%1000000000*timebase.toNat < 2^64 ∧ duration%1000000000*timebase.toNat/1000000000 < 2^32 := by
  have base := timebase.toNat_lt
  have nanos : duration%1000000000 < 1000000000 := Nat.mod_lt _ (by decide)
  have scaled : duration%1000000000*timebase.toNat ≤ 1000000000*timebase.toNat := Nat.mul_le_mul_right _ nanos.le
  have split : duration*timebase.toNat =
      1000000000*(duration/1000000000*timebase.toNat)+duration%1000000000*timebase.toNat := by
    rw [← Nat.mul_assoc,← Nat.add_mul,Nat.div_add_mod]
  have below : duration%1000000000*timebase.toNat/1000000000 < 2^32 := by omega
  refine ⟨?_,by omega,below⟩
  rw [split,Nat.mul_add_div (by decide)]
  simp only [mediaToRtpTimestamp,UInt32.toNat_add,UInt32.toNat_ofNat']
  omega

theorem ticksSum (first second : Nat) : ∃ e : Int, (e = -1 ∨ e = 0) ∧
    (first/1000000000 : Nat)+(second/1000000000 : Nat) = ((first+second)/1000000000 : Nat)+e := by
  refine ⟨(first/1000000000 : Nat)+(second/1000000000 : Nat)-((first+second)/1000000000 : Nat),?_,by omega⟩
  omega

theorem ticksDifference {whole part : Nat} (inside : part ≤ whole) : ∃ e : Int, (e = 0 ∨ e = 1) ∧
    (whole/1000000000 : Nat)-(part/1000000000 : Nat) = (((whole-part)/1000000000 : Nat) : Int)+e := by
  refine ⟨(whole/1000000000 : Nat)-(part/1000000000 : Nat)-((whole-part)/1000000000 : Nat),?_,by omega⟩
  omega

namespace StreamState

structure Clocked (timebase : UInt32) (s : StreamState) (history : History) : Prop where
  base : s.rtpTimebase = timebase
  reference : s.lastReferenceTime =
    (acceptedFrames (history.map Prod.snd)).getLast?.map fun entry => entry.2.referenceTime
  ticks : ∀ entry, (acceptedFrames (history.map Prod.snd)).getLast? = some entry →
    s.lastRtpTimestamp = mediaToRtpTimestamp entry.2.mediaTimestamp timebase

theorem newClocked (parameters : StreamParameters) (sequenceNumber : UInt16) :
    Clocked parameters.rtpTimebase (new parameters sequenceNumber) [] where
  base := rfl
  reference := rfl
  ticks entry last := by simp [acceptedFrames] at last

theorem Clocked.keep {timebase : UInt32} {s t : StreamState} {history : History} {operation : Operation}
    {output : Output} (c : Clocked timebase s history) (base : t.rtpTimebase = s.rtpTimebase)
    (reference : t.lastReferenceTime = s.lastReferenceTime) (ticks : t.lastRtpTimestamp = s.lastRtpTimestamp)
    (unaccepted : output.accepts = []) : Clocked timebase t (history ++ [(operation,output)]) where
  base := base.trans c.base
  reference := by
    rw [acceptedFramesSnoc,unaccepted,List.append_nil,← c.reference]
    exact reference
  ticks entry last := by
    rw [acceptedFramesSnoc,unaccepted,List.append_nil] at last
    rw [ticks]
    exact c.ticks entry last

theorem Clocked.moved {aes : BlockCipher} {timebase : UInt32} {s t : StreamState} {history : History}
    {operation : Operation} {output : Output} (c : Clocked timebase s history)
    (moves : Moves aes s operation t output) : Clocked timebase t (history ++ [(operation,output)]) := by
  cases moves with
  | accepted frame room =>
    refine ⟨c.base,?_,fun entry last => ?_⟩
    · rw [acceptedFramesSnoc]
      simp [Output.accepts,acceptFrame]
    · rw [acceptedFramesSnoc,Output.accepts,List.getLast?_concat] at last
      cases Option.some.inj last
      rw [← c.base]
      rfl
  | set delay => exact c.keep rfl rfl rfl rfl
  | kept same unset unaccepted =>
    exact c.keep (congrArg Outgoing.rtpTimebase same) (congrArg Outgoing.lastReferenceTime same)
      (congrArg Outgoing.lastRtpTimestamp same) unaccepted

theorem runClocked (aes : BlockCipher) (parameters : StreamParameters) (sequenceNumber : UInt16)
    (operations : List Operation) : Clocked parameters.rtpTimebase (run aes parameters sequenceNumber operations).1
      (history aes parameters sequenceNumber operations) :=
  Machine.runHistory (step aes) (newClocked parameters sequenceNumber)
    (fun s _ operation c => c.moved (stepMoves aes s operation)) operations

theorem projectedForward {timebase ticks : UInt32} {m elapsed : Nat} (start : ticks = mediaToRtpTimestamp m timebase) :
    ∃ e : Int, (e = -1 ∨ e = 0) ∧ ((ticks+mediaToRtpTimestamp elapsed timebase).toNat : Int) ≡
      ((m+elapsed)*timebase.toNat/1000000000 : Nat)+e [ZMOD 2^32] := by
  obtain ⟨e,small,sum⟩ := ticksSum (m*timebase.toNat) (elapsed*timebase.toNat)
  refine ⟨e,small,?_⟩
  rw [start,UInt32.toNat_add,(mediaToRtpExact m timebase).1,(mediaToRtpExact elapsed timebase).1,Nat.add_mul,← sum,
    Int.ModEq]
  omega

theorem projectedBackward {timebase ticks : UInt32} {m ahead : Nat} (start : ticks = mediaToRtpTimestamp m timebase)
    (inside : ahead ≤ m) : ∃ e : Int, (e = 0 ∨ e = 1) ∧
      ((ticks-mediaToRtpTimestamp ahead timebase).toNat : Int) ≡
        ((m-ahead)*timebase.toNat/1000000000 : Nat)+e [ZMOD 2^32] := by
  have scaled : ahead*timebase.toNat ≤ m*timebase.toNat := Nat.mul_le_mul_right _ inside
  obtain ⟨e,small,difference⟩ := ticksDifference scaled
  refine ⟨e,small,?_⟩
  rw [start,UInt32.toNat_sub,(mediaToRtpExact m timebase).1,(mediaToRtpExact ahead timebase).1,Nat.sub_mul,
    ← difference,Int.ModEq]
  omega

theorem rtpClockExact (aes : BlockCipher) (parameters : StreamParameters) (sequenceNumber : UInt16)
    (operations : List Operation) :
    let s := (run aes parameters sequenceNumber operations).1
    let base := parameters.rtpTimebase.toNat
    (∀ (duration : Nat) (timebase : UInt32),
      (mediaToRtpTimestamp duration timebase).toNat = duration*timebase.toNat/1000000000 % 2^32 ∧
        duration%1000000000*timebase.toNat < 2^64 ∧ duration%1000000000*timebase.toNat/1000000000 < 2^32) ∧
    ∀ (id : Int) (frame : EncodedFrame) (ntpNow : NtpTimestamp) (now : Nat),
      (acceptedFrames (run aes parameters sequenceNumber operations).2).getLast? = some (id,frame) →
      (frame.referenceTime ≤ now → ∃ e : Int, (e = -1 ∨ e = 0) ∧
        ((s.senderReportTimestamp ntpNow now).2.toNat : Int) ≡
          ((frame.mediaTimestamp+(now-frame.referenceTime))*base/1000000000 : Nat)+e [ZMOD 2^32]) ∧
      (now < frame.referenceTime → frame.referenceTime-now ≤ frame.mediaTimestamp → ∃ e : Int, (e = 0 ∨ e = 1) ∧
        ((s.senderReportTimestamp ntpNow now).2.toNat : Int) ≡
          ((frame.mediaTimestamp-(frame.referenceTime-now))*base/1000000000 : Nat)+e [ZMOD 2^32]) := by
  intro s base
  refine ⟨mediaToRtpExact,fun id frame ntpNow now last => ?_⟩
  have c : Clocked parameters.rtpTimebase s (history aes parameters sequenceNumber operations) := runClocked ..
  have reference := c.reference
  have ticks := c.ticks (id,frame)
  rw [historyOutputs] at reference ticks
  rw [last] at reference
  have start := ticks last
  simp only [senderReportTimestamp,reference,Option.map_some,c.base]
  refine ⟨fun past => ?_,fun future inside => ?_⟩
  · rw [if_pos past]
    exact projectedForward start
  · rw [if_neg (by omega)]
    exact projectedBackward start inside

def clockRun : StreamState × List Output :=
  run (fun _ block => block) exampleParameters 0 [.enqueueFrame ⟨.keyFrame,[1],1000000007,5000000000,none⟩]

theorem rtpClockProjected :
    (∃ e : Int, (e = -1 ∨ e = 0) ∧ ((clockRun.1.senderReportTimestamp ⟨0⟩ 5333333333).2.toNat : Int) ≡
      ((1000000007+(5333333333-5000000000))*exampleParameters.rtpTimebase.toNat/1000000000 : Nat)+e [ZMOD 2^32]) ∧
    ∃ e : Int, (e = 0 ∨ e = 1) ∧ ((clockRun.1.senderReportTimestamp ⟨0⟩ 4666666667).2.toNat : Int) ≡
      ((1000000007-(5000000000-4666666667))*exampleParameters.rtpTimebase.toNat/1000000000 : Nat)+e [ZMOD 2^32] := by
  have last : (acceptedFrames clockRun.2).getLast? = some (0,⟨.keyFrame,[1],1000000007,5000000000,none⟩) := by
    decide +kernel
  have clock := (rtpClockExact (fun _ block => block) exampleParameters 0
    [.enqueueFrame ⟨.keyFrame,[1],1000000007,5000000000,none⟩]).2
  exact ⟨(clock _ _ ⟨0⟩ 5333333333 last).1 (by norm_num),(clock _ _ ⟨0⟩ 4666666667 last).2 (by norm_num) (by norm_num)⟩

end StreamState

def compactNtpFromSenderReport (packet : Bytes) : UInt32 :=
  let seconds := u32At packet 8
  let fraction := u32At packet 12
  (seconds <<< 16) ||| (fraction >>> 16)

theorem compactHalves (t : NtpTimestamp) : (t.upper32 <<< 16) ||| (t.fraction >>> 16) = t.middle32 := by
  apply UInt32.toNat_inj.mp
  have width : (16 : UInt32).toNat%32 = 16 := rfl
  have small : t.fraction.toNat/2^16 < 2^16 := by
    have bound := t.fraction.toNat_lt
    omega
  have cut : t.upper32.toNat*2^16 % 2^32 = t.upper32.toNat%2^16*2^16 := by omega
  rw [t.middle32Halves,UInt32.toNat_or,UInt32.toNat_shiftLeft,UInt32.toNat_shiftRight,width,Nat.shiftLeft_eq,cut,
    Nat.shiftRight_eq_div_pow,← Nat.shiftLeft_eq,← Nat.shiftLeft_add_eq_or_of_lt small]

namespace StreamState

theorem reportNtp (s : StreamState) (ntpNow : NtpTimestamp) (now : Nat) :
    (s.senderReportTimestamp ntpNow now).1 = ntpNow := by
  unfold senderReportTimestamp
  split
  · rfl
  · split <;> rfl

theorem compactSent (s : StreamState) (sending : Reporting) :
    compactNtpFromSenderReport (s.senderReport sending) = sending.ntpNow.middle32 := by
  have seconds : u32At (s.senderReport sending) 8 = sending.ntpNow.upper32 := by
    simp only [senderReport,reportNtp,List.append_assoc]
    rw [← List.append_assoc (be 2 6),← List.append_assoc [0x80,rtcpSenderReport]]
    exact u32AtFront ([0x80,rtcpSenderReport] ++ (be 2 6 ++ be 4 s.senderSyncSource.toNat)) _ _
  have fraction : u32At (s.senderReport sending) 12 = sending.ntpNow.fraction := by
    simp only [senderReport,reportNtp,List.append_assoc]
    rw [← List.append_assoc (be 4 s.senderSyncSource.toNat),← List.append_assoc (be 2 6),
      ← List.append_assoc [0x80,rtcpSenderReport]]
    exact u32AtFront ([0x80,rtcpSenderReport] ++ (be 2 6 ++ (be 4 s.senderSyncSource.toNat ++
      be 4 sending.ntpNow.upper32.toNat))) _ _
  rw [compactNtpFromSenderReport,seconds,fraction,compactHalves]

def Operation.records : Operation → List UInt32
  | .recordSenderReport compactNtp _ => [compactNtp]
  | _ => []

theorem reportsUnfed : Unfed senderReports where
  delayed _ _ := rfl
  released _ _ := rfl
  advanced _ _ _ := rfl
  noted _ _ _ := rfl
  nacked _ _ _ := rfl

def Held (record : SenderReportRecord) (since : List UInt32) (s : StreamState) : Prop :=
  ∃ earlier later, s.senderReports = earlier ++ record::later ∧ later.map SenderReportRecord.compactNtp = since

theorem recordHeld (s : StreamState) (compactNtp : UInt32) (sentAt : Nat) :
    Held ⟨compactNtp,sentAt⟩ [] (s.recordSenderReport compactNtp sentAt) := ⟨_,[],rfl,rfl⟩

/- The history drops its oldest record, which is this one only when it is full of later ones. -/
theorem Held.record {record : SenderReportRecord} {since : List UInt32} {s : StreamState}
    (held : Held record since s) (compactNtp : UInt32) (sentAt : Nat)
    (room : since.length+1 < senderReportHistory) :
    Held record (since ++ [compactNtp]) (s.recordSenderReport compactNtp sentAt) := by
  obtain ⟨earlier,later,reports,rfl⟩ := held
  rw [List.length_map] at room
  simp only [recordSenderReport]
  split
  · rename_i full
    rw [reports,List.length_append,List.length_cons] at full
    cases earlier with
    | nil =>
      rw [List.length_nil] at full
      omega
    | cons oldest rest => exact ⟨rest,later ++ [⟨compactNtp,sentAt⟩],by simp [reports],by simp⟩
  · exact ⟨earlier,later ++ [⟨compactNtp,sentAt⟩],by simp [reports],by simp⟩

theorem Held.kept {record : SenderReportRecord} {since : List UInt32} {s t : StreamState}
    (held : Held record since s) (same : t.senderReports = s.senderReports) : Held record (since ++ []) t := by
  rw [List.append_nil]
  obtain ⟨earlier,later,reports,rfl⟩ := held
  exact ⟨earlier,later,same.trans reports,rfl⟩

theorem stepHeld (aes : BlockCipher) {record : SenderReportRecord} {since : List UInt32} {s : StreamState}
    (held : Held record since s) (operation : Operation)
    (room : (since ++ operation.records).length < senderReportHistory) :
    Held record (since ++ operation.records) (step aes s operation).1 := by
  cases operation with
  | enqueueFrame frame =>
    refine held.kept ?_
    rcases enqueueCases aes s frame with ⟨_,_,result⟩ | ⟨error,result⟩
    · simp only [step,result]
      rfl
    · simp only [step,result]
      rfl
  | castFeedback feedback => exact held.kept (reportsUnfed.processCast s feedback)
  | nextPacket =>
    refine held.kept ?_
    obtain ⟨_,_,written⟩ := s.nextPacketWrites
    simp only [step,written]
  | recordPacketSent size retransmission =>
    refine held.kept ?_
    obtain ⟨_,_,_,written⟩ := s.recordPacketSentWrites size retransmission
    simp only [step,written]
  | setTargetPlayoutDelay delay => exact held.kept rfl
  | recordSenderReport compactNtp sentAt =>
    exact held.record compactNtp sentAt (by simpa [Operation.records] using room)
  | receiverReport report receivedAt =>
    refine held.kept ?_
    obtain ⟨_,written⟩ := s.updateReceiverReportWrites report receivedAt
    simp only [step,written]
  | receiverReferenceTime report => exact held.kept rfl

theorem runHeld (aes : BlockCipher) {record : SenderReportRecord} {since : List UInt32} {s : StreamState}
    (held : Held record since s) (operations : List Operation)
    (room : (since ++ operations.flatMap Operation.records).length < senderReportHistory) :
    Held record (since ++ operations.flatMap Operation.records) (Machine.run (step aes) s operations).1 := by
  induction operations generalizing since s with
  | nil => simpa using held
  | cons operation rest ih =>
    rw [List.flatMap_cons,← List.append_assoc] at room ⊢
    exact ih (stepHeld aes held operation (by rw [List.length_append] at room; omega)) room

theorem Held.found {record : SenderReportRecord} {since : List UInt32} {s : StreamState}
    (held : Held record since s) (unique : record.compactNtp ∉ since) :
    s.senderReports.reverse.find? (fun other => other.compactNtp = record.compactNtp) = some record := by
  obtain ⟨earlier,later,reports,rfl⟩ := held
  have none' : later.reverse.find? (fun other => other.compactNtp = record.compactNtp) = none := by
    rw [List.find?_eq_none]
    intro other member same
    exact unique (List.mem_map.mpr ⟨other,List.mem_reverse.mp member,of_decide_eq_true same⟩)
  simp [reports,List.find?_append,none']

def roundTrip (sentAt : Nat) (echo : ReceiverReport) (receivedAt : Nat) : Option Nat :=
  let receiverDelay := durationFromNtpShort echo.delaySinceLastSr
  if sentAt+receiverDelay ≤ receivedAt then some (receivedAt-sentAt-receiverDelay) else none

theorem Held.echoed {record : SenderReportRecord} {since : List UInt32} {s : StreamState}
    (held : Held record since s) (unique : record.compactNtp ∉ since) (nonzero : record.compactNtp ≠ 0)
    {echo : ReceiverReport} (echoes : echo.lastSrTimestamp = record.compactNtp) (receivedAt : Nat) :
    (s.updateReceiverReport echo receivedAt).currentRtt = roundTrip record.sentAt echo receivedAt := by
  simp only [updateReceiverReport,echoes,if_neg nonzero,held.found unique]
  rfl

/- The report's record is found through its echo unless the value echoed is zero, which the
protocol uses for no report at all, or the history has moved on. -/
theorem ntpReportEchoed :
    (∀ time, NtpTimestamp.InEra time → (NtpTimestamp.fromSystemTime time).toSystemTime = time ∨
        (NtpTimestamp.fromSystemTime time).toSystemTime+1 = time) ∧
      (∀ time later, time ≤ later → NtpTimestamp.InEra later →
        (NtpTimestamp.fromSystemTime time).raw ≤ (NtpTimestamp.fromSystemTime later).raw) ∧
      (∀ t : NtpTimestamp, t.middle32.toNat = t.upper32.toNat%2^16*2^16+t.fraction.toNat/2^16) ∧
      ∀ (aes : BlockCipher) (s : StreamState) (sending : Reporting) (later : List Operation) (echo : ReceiverReport)
          (receivedAt : Nat),
        compactNtpFromSenderReport (s.senderReport sending) = sending.ntpNow.middle32 ∧
        (echo.lastSrTimestamp = compactNtpFromSenderReport (s.senderReport sending) → sending.ntpNow.middle32 ≠ 0 →
          (later.flatMap Operation.records).length < senderReportHistory →
          sending.ntpNow.middle32 ∉ later.flatMap Operation.records →
          ((Machine.run (step aes) (s.recordSenderReport sending.ntpNow.middle32 sending.sentAt) later).1
            |>.updateReceiverReport echo receivedAt).currentRtt = roundTrip sending.sentAt echo receivedAt) := by
  refine ⟨fun time era => NtpTimestamp.systemTimeRoundTrip era,
    fun time later order era => NtpTimestamp.fromSystemTimeMono order era,NtpTimestamp.middle32Halves,?_⟩
  intro aes s sending later echo receivedAt
  refine ⟨s.compactSent sending,fun echoes nonzero few unique => ?_⟩
  rw [s.compactSent sending] at echoes
  have held := runHeld aes (recordHeld s sending.ntpNow.middle32 sending.sentAt) later few
  exact held.echoed unique nonzero echoes receivedAt

theorem ntpReportEchoedOnce :
    let s := StreamState.new exampleParameters 0
    let sending : Reporting := ⟨NtpTimestamp.fromSystemTime 1743290753000000000,0,fun data => .ok data.length,50⟩
    let echo : ReceiverReport := ⟨2,1,0,0,0,0,sending.ntpNow.middle32,66⟩
    (NtpTimestamp.fromSystemTime 1743290753000000007).toSystemTime = 1743290753000000006 ∧
      ((s.recordSenderReport sending.ntpNow.middle32 50).updateReceiverReport echo 7000050).currentRtt =
        some 5992920 := by
  intro s sending echo
  have found := (ntpReportEchoed.2.2.2 (fun _ block => block) s sending [] echo 7000050).2
    (s.compactSent sending).symm (by decide +kernel) (by decide) (by decide)
  have took : roundTrip 50 echo 7000050 = some 5992920 := by decide +kernel
  refine ⟨?_,found.trans took⟩
  rcases ntpReportEchoed.1 1743290753000000007 (by decide) with same | less
  · exact absurd same (by decide +kernel)
  · exact Nat.succ.inj less

/- A report at a multiple of 65536 s since 1900 is echoed as zero, which is taken for no report:
its record is there and is not found. -/
theorem zeroEchoIgnored :
    let s := StreamState.new exampleParameters 0
    let sending : Reporting := ⟨NtpTimestamp.fromSystemTime 1743290752000000000,0,fun data => .ok data.length,50⟩
    let echo : ReceiverReport := ⟨2,1,0,0,0,0,compactNtpFromSenderReport (s.senderReport sending),66⟩
    let recorded := s.recordSenderReport sending.ntpNow.middle32 50
    NtpTimestamp.InEra 1743290752000000000 ∧ recorded.senderReports = [⟨echo.lastSrTimestamp,50⟩] ∧
      roundTrip 50 echo 7000050 = some 5992920 ∧
      (recorded.updateReceiverReport echo 7000050).currentRtt = none := by
  intro s sending echo recorded
  have zero : sending.ntpNow.middle32 = 0 := by decide +kernel
  have echoed : echo.lastSrTimestamp = 0 := (s.compactSent sending).trans zero
  refine ⟨by decide,?_,by decide +kernel,?_⟩
  · rw [echoed,← zero]
    rfl
  · simp only [updateReceiverReport,if_pos echoed]
    rfl

end StreamState
end Chromiacast
