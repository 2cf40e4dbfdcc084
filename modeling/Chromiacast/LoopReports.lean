import Chromiacast.LoopStreams
import Chromiacast.SenderClock

/-! Sender reports count what was sent. The counters a report carries are those of the datagrams
the loop has transmitted for the stream, first transmissions only. -/
namespace Chromiacast
open Basis

structure Counters where
  packets : Nat
  octets : Nat
  retransmitted : Nat
  deriving DecidableEq, Repr

def StreamState.counters (s : StreamState) : Counters := ⟨s.rtpPacketsSent,s.rtpOctetsSent,s.packetsRetransmitted⟩

namespace Counters

def record (c : Counters) : StreamLabel → Counters
  | .recorded packetSize retransmission =>
    if retransmission then {c with retransmitted := saturatingAdd c.retransmitted 1}
    else {c with
      packets := (c.packets+1) % 2^64
      octets := (c.octets+(packetSize-rtpStandardHeaderSize)) % 2^64}
  | _ => c

end Counters

namespace StreamState

theorem countersUnfed : Unfed counters where
  delayed _ _ := rfl
  released _ _ := rfl
  advanced _ _ _ := rfl
  noted _ _ _ := rfl
  nacked _ _ _ := rfl

theorem processedCounts (ids : List Int) (items : List Retransmission) (c : Counters) :
    (ids.map StreamLabel.acknowledged ++ items.map fun r =>
      StreamLabel.renewed r.frameId r.packetId r.packetsQueued).foldl Counters.record c = c := by
  rw [List.foldl_append,List.foldl_map,List.foldl_map]
  simp [Counters.record]

theorem stepCounters (aes : BlockCipher) (s : StreamState) (operation : Operation) :
    (step aes s operation).1.counters =
      (label operation (step aes s operation).2).foldl Counters.record s.counters := by
  cases operation with
  | enqueueFrame frame =>
    rcases enqueueCases aes s frame with ⟨_,_,result⟩ | ⟨error,result⟩
    · simp only [step,result]
      rfl
    · simp only [step,result]
      rfl
  | castFeedback feedback =>
    simp only [step,label,processedCounts]
    exact countersUnfed.processCast s feedback
  | nextPacket =>
    obtain ⟨_,_,written⟩ := s.nextPacketWrites
    simp only [step,label,written,counters]
    cases s.nextPacket.1 <;> rfl
  | recordPacketSent packetSize retransmission =>
    simp only [step,label,List.foldl_cons,List.foldl_nil,Counters.record,recordPacketSent]
    cases retransmission <;> rfl
  | receiverReport report receivedAt =>
    obtain ⟨_,written⟩ := s.updateReceiverReportWrites report receivedAt
    simp only [step,written]
    rfl
  | setTargetPlayoutDelay delay => rfl
  | recordSenderReport compactNtp sentAt => rfl
  | receiverReferenceTime report => rfl

end StreamState

def recordedSizes (retransmission : Bool) (labels : List StreamLabel) : List Nat :=
  labels.filterMap fun label =>
    match label with
    | .recorded packetSize again => if again = retransmission then some packetSize else none
    | _ => none

def payloadOctets (sizes : List Nat) : Nat := (sizes.map fun size => size-rtpStandardHeaderSize).sum

structure Counters.Fit (c : Counters) : Prop where
  packets : c.packets < 2^64
  octets : c.octets < 2^64
  retransmitted : c.retransmitted ≤ u64Max

theorem Counters.Fit.record {c : Counters} (fit : c.Fit) (label : StreamLabel) : (c.record label).Fit := by
  cases label with
  | recorded packetSize retransmission =>
    cases retransmission with
    | true => exact ⟨fit.packets,fit.octets,Nat.min_le_right ..⟩
    | false => exact ⟨Nat.mod_lt _ (by norm_num),Nat.mod_lt _ (by norm_num),fit.retransmitted⟩
  | accepted | rejected | acknowledged | renewed | handed => exact fit

theorem recordAll (labels : List StreamLabel) {c : Counters} (fit : c.Fit) :
    labels.foldl Counters.record c = ⟨(c.packets+(recordedSizes false labels).length) % 2^64,
      (c.octets+payloadOctets (recordedSizes false labels)) % 2^64,
      saturatingAdd c.retransmitted (recordedSizes true labels).length⟩ := by
  induction labels generalizing c with
  | nil =>
    have same : saturatingAdd c.retransmitted 0 = c.retransmitted := Nat.min_eq_left fit.retransmitted
    simp only [recordedSizes,payloadOctets,List.filterMap_nil,List.length_nil,List.map_nil,List.sum_nil,Nat.add_zero,
      List.foldl_nil,same,Nat.mod_eq_of_lt fit.packets,Nat.mod_eq_of_lt fit.octets]
  | cons label rest ih =>
    rw [List.foldl_cons,ih (fit.record label)]
    cases label with
    | recorded packetSize retransmission =>
      cases retransmission with
      | true =>
        have counted : saturatingAdd (saturatingAdd c.retransmitted 1) (recordedSizes true rest).length =
            saturatingAdd c.retransmitted ((recordedSizes true rest).length+1) := by
          rw [saturatingAddAssoc,Nat.add_comm 1]
        exact congrArg _ counted
      | false =>
        simp only [recordedSizes,payloadOctets,Counters.record,List.filterMap_cons,List.length_cons,List.map_cons,
          List.sum_cons,Bool.false_eq_true,if_false,if_true]
        congr 1
        · omega
        · omega
    | accepted | rejected | acknowledged | renewed | handed => rfl

def transmittedSizes (type : StreamType) (retransmission : Bool) (trace : List (Option Handled)) : List Nat :=
  (trace.flatMap fun out => out.elim [] Handled.sent).filterMap fun t =>
    if t.stream = type ∧ t.outbound.retransmission = retransmission then some t.outbound.packet.data.length else none

theorem recordedAppend (retransmission : Bool) (a b : List StreamLabel) :
    recordedSizes retransmission (a ++ b) = recordedSizes retransmission a ++ recordedSizes retransmission b :=
  List.filterMap_append ..

theorem transmittedAppend (type : StreamType) (retransmission : Bool) (a b : List (Option Handled)) :
    transmittedSizes type retransmission (a ++ b) =
      transmittedSizes type retransmission a ++ transmittedSizes type retransmission b := by
  simp only [transmittedSizes,List.flatMap_append,List.filterMap_append]

theorem replyRecorded (type : StreamType) (retransmission : Bool) (input : SenderInput) (reply : Option Reply) :
    recordedSizes retransmission (replyLabel type input reply) = [] := by
  unfold replyLabel
  split
  · split
    · split <;> rfl
    · rfl
  · rfl

theorem emissionsRecorded (type : StreamType) (retransmission : Bool)
    (emissions : List (Channel.Emission SenderEvent)) :
    recordedSizes retransmission (emissions.flatMap (emissionLabel type)) = [] := by
  have event (e : SenderEvent) : recordedSizes retransmission (e.label type) = [] := by
    cases e <;> simp only [SenderEvent.label] <;> first | rfl | (split <;> rfl)
  induction emissions with
  | nil => rfl
  | cons emission rest ih =>
    rw [List.flatMap_cons,recordedAppend,ih]
    cases emission <;> simp only [emissionLabel,event,List.append_nil]

theorem sentRecorded (type : StreamType) (retransmission : Bool) (sent : List Transmission) :
    recordedSizes retransmission (sent.flatMap (Transmission.label type)) = sent.filterMap fun t =>
      if t.stream = type ∧ t.outbound.retransmission = retransmission then some t.outbound.packet.data.length
      else none := by
  induction sent with
  | nil => rfl
  | cons t rest ih =>
    rw [List.flatMap_cons,recordedAppend,ih,List.filterMap_cons]
    by_cases own : t.stream = type
    · by_cases same : t.outbound.retransmission = retransmission <;>
        simp [recordedSizes,Transmission.label,own,same]
    · simp [recordedSizes,Transmission.label,own]

theorem handledRecorded (type : StreamType) (retransmission : Bool) (input : SenderInput) (h : Handled) :
    recordedSizes retransmission (h.labels type input) = transmittedSizes type retransmission [some h] := by
  rw [Handled.labels,recordedAppend,recordedAppend,replyRecorded,emissionsRecorded,sentRecorded,List.nil_append,
    List.nil_append]
  simp only [transmittedSizes,List.flatMap_cons,List.flatMap_nil,Option.elim_some,List.append_nil]

theorem stepRecorded (aes : BlockCipher) (remote : SocketAddr) (type : StreamType) (retransmission : Bool)
    (w : SenderRun) (action : SenderAction) :
    recordedSizes retransmission (action.labels type (w.step aes remote action).2) =
      transmittedSizes type retransmission [(w.step aes remote action).2] := by
  have taken := w.stepTaken aes remote action
  generalize w.step aes remote action = outcome at taken ⊢
  obtain ⟨after,out⟩ := outcome
  cases taken with
  | read | ended => rfl
  | handled input reads running h handled => exact handledRecorded type retransmission input h

theorem runRecorded (aes : BlockCipher) (remote : SocketAddr) (session : Session) (now : Nat)
    (actions : List SenderAction) (type : StreamType) (retransmission : Bool) :
    let r := SenderRun.run aes remote session now actions
    recordedSizes retransmission ((actions.zip r.2).flatMap fun entry => entry.1.labels type entry.2) =
      transmittedSizes type retransmission r.2 := by
  intro r
  have second : (actions.zip r.2).map Prod.snd = r.2 :=
    List.map_snd_zip (Machine.runLength (SenderRun.step aes remote) _ actions).le
  have counted := Machine.runHistory (SenderRun.step aes remote) (s := SenderRun.new session now)
    (R := fun _ history => recordedSizes retransmission (history.flatMap fun entry => entry.1.labels type entry.2) =
      transmittedSizes type retransmission (history.map Prod.snd)) rfl
    (fun w history action ih => by
      rw [List.flatMap_append,recordedAppend,List.map_append,List.map_singleton,transmittedAppend,ih,
        List.flatMap_singleton,stepRecorded]) actions
  exact counted.trans (congrArg _ second)

theorem reportCounts (s : StreamState) (report : Reporting) :
    u32At (s.senderReport report) 20 = UInt32.ofNat s.rtpPacketsSent ∧
      u32At (s.senderReport report) 24 = UInt32.ofNat s.rtpOctetsSent := by
  let stamps := s.senderReportTimestamp report.ntpNow report.monotonicNow
  let head : Bytes := [0x80,rtcpSenderReport] ++ be 2 6 ++ be 4 s.senderSyncSource.toNat ++
    be 4 stamps.1.upper32.toNat ++ be 4 stamps.1.fraction.toNat ++ be 4 stamps.2.toNat
  have sized : head.length = 20 := by simp [head]
  have layout : s.senderReport report = head ++ (be 4 (UInt32.ofNat s.rtpPacketsSent).toNat ++
      be 4 (UInt32.ofNat s.rtpOctetsSent).toNat) := List.append_assoc ..
  constructor
  · rw [layout,← sized]
    exact u32AtFront head _ _
  · have behind : (head ++ be 4 (UInt32.ofNat s.rtpPacketsSent).toNat).length = 24 := by simp [sized]
    rw [layout,← List.append_assoc,← behind,← List.append_nil (be 4 (UInt32.ofNat s.rtpOctetsSent).toNat)]
    exact u32AtFront _ _ []

theorem reportsCountTransmissions (aes : BlockCipher) (remote : SocketAddr) (session : Session) (now : Nat)
    (actions : List SenderAction) (type : StreamType) (parameters : StreamParameters) (sequenceNumber : UInt16)
    (here : session.get type = some (StreamState.new parameters sequenceNumber)) :
    let r := SenderRun.run aes remote session now actions
    let first := transmittedSizes type false r.2
    ∃ s, r.1.loop.session.get type = some s ∧
      s.packetsRetransmitted = min (transmittedSizes type true r.2).length u64Max ∧
      ∀ report, (u32At (s.senderReport report) 20).toNat = first.length % 2^32 ∧
        (u32At (s.senderReport report) 24).toNat = payloadOctets first % 2^32 := by
  intro r first
  obtain ⟨s,lost,there,traces,unsent⟩ := runRefined aes remote session now actions here
  have zero : (StreamState.new parameters sequenceNumber).counters = ⟨0,0,0⟩ := rfl
  have fit : (Counters.mk 0 0 0).Fit := ⟨by norm_num,by norm_num,Nat.zero_le _⟩
  have counted := Machine.Traces.folds (StreamState.stepCounters aes) traces
  have nothing (retransmission : Bool) : recordedSizes retransmission lost = [] := by
    rcases unsent with rfl | ⟨_,packet,rfl⟩ <;> rfl
  rw [zero,recordAll _ fit,recordedAppend,recordedAppend,nothing,nothing,List.append_nil,List.append_nil,
    runRecorded,runRecorded,Nat.zero_add,Nat.zero_add] at counted
  obtain ⟨packets,octets,retransmitted⟩ := Counters.mk.inj counted
  refine ⟨s,there,?_,fun report => ?_⟩
  · rw [retransmitted,saturatingAdd,Nat.zero_add]
  · obtain ⟨first,second⟩ := reportCounts s report
    have narrow (n : Nat) : (UInt32.ofNat (n % 2^64)).toNat = n % 2^32 := by
      rw [UInt32.toNat_ofNat']
      exact Nat.mod_mod_of_dvd n (by norm_num)
    rw [first,second,packets,octets,narrow,narrow]
    exact ⟨rfl,rfl⟩

theorem exampleReportCounts :
    let r := SenderRun.run (fun _ block => block) (.v4 0 0) exampleStreams 0 exampleSending
    ∃ s, r.1.loop.session.get .audio = some s ∧
      ∀ report, (u32At (s.senderReport report) 20).toNat = 2 ∧ (u32At (s.senderReport report) 24).toNat = 16 := by
  have sizes : transmittedSizes .audio false (SenderRun.run (fun _ block => block) (.v4 0 0) exampleStreams 0
      exampleSending).2 = [20,20] := by decide +kernel
  obtain ⟨s,there,_,counts⟩ := reportsCountTransmissions (fun _ block => block) (.v4 0 0) exampleStreams 0
    exampleSending .audio StreamState.exampleParameters 0 rfl
  rw [sizes] at counts
  exact ⟨s,there,counts⟩

end Chromiacast
