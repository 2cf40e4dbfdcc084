import Chromiacast.RtcpFields

/-! The packets of a compound: what payload is well formed for each packet type and
what it reports. The packet parsers accept exactly these payloads, and only append
to what was collected before. -/
namespace Chromiacast
open Basis CompoundRtcpPacket

theorem u32AtDrop (data : Bytes) (offset k : Nat) : u32At (data.drop offset) k = u32At data (offset+k) := by
  rw [u32At,u32At,List.drop_drop]

theorem u32AtTake {data : Bytes} {n k : Nat} (inside : k+4 ≤ n) : u32At (data.take n) k = u32At data k := by
  rw [u32At,u32At,List.drop_take,List.take_take,Nat.min_eq_left (by omega)]

theorem dropFour {data : Bytes} {offset : Nat} (inside : offset+4 ≤ data.length) :
    data.drop offset = byteAt data offset::byteAt data (offset+1)::byteAt data (offset+2)::
      byteAt data (offset+3)::data.drop (offset+4) := by
  have one {i : Nat} (bound : i < data.length) : data.drop i = byteAt data i::data.drop (i+1) := by
    rw [List.drop_eq_getElem_cons bound,byteAt,List.getD_eq_getElem?_getD,List.getElem?_eq_getElem bound]
    rfl
  rw [one (by omega),one (by omega),one (by omega),one (by omega)]

/- A receiver reference time block; the other block types carry nothing the sender reads. -/
def referenceTimes (blockType : UInt8) (body : Bytes) : List NtpTimestamp :=
  if blockType = 4 ∧ 8 ≤ body.length then
    [⟨((u32At body 0).toUInt64 <<< 32) ||| (u32At body 4).toUInt64⟩]
  else []

theorem referenceTimeBlockIn {payload : Bytes} (source : SyncSource) (blockType : UInt8) {offset length : Nat}
    (inside : offset+length ≤ payload.length) (out : List ReceiverReferenceTime) :
    referenceTimeBlock payload source blockType offset length out =
      .ok (out ++ (referenceTimes blockType ((payload.drop offset).take length)).map
        (ReceiverReferenceTime.mk source)) := by
  have size : ((payload.drop offset).take length).length = length := by
    rw [List.length_take,List.length_drop]
    omega
  have body {k : Nat} (bound : k+4 ≤ length) :
      u32At ((payload.drop offset).take length) k = u32At payload (offset+k) := by
    rw [u32AtTake bound,u32AtDrop]
  unfold referenceTimeBlock referenceTimes
  rw [size]
  by_cases time : blockType = 4 ∧ 8 ≤ length
  · rw [if_pos ⟨time.1,time.2,by omega⟩,if_pos time,readU32In (by omega),readU32In (by omega),
      body (by omega),body (by omega)]
    rfl
  · rw [if_neg (fun all => time ⟨all.1,all.2.1⟩),if_neg time]
    simp

inductive ExtendedBlocks : Bytes → List NtpTimestamp → Prop where
  | nil : ExtendedBlocks [] []
  | block {blockType reserved l0 l1 : UInt8} {body rest : Bytes} {times : List NtpTimestamp}
      (size : body.length = 4*(u16FromBeBytes l0 l1).toNat) (next : ExtendedBlocks rest times) :
      ExtendedBlocks (blockType::reserved::l0::l1::(body ++ rest)) (referenceTimes blockType body ++ times)

theorem extendedCons {blockType reserved l0 l1 : UInt8} {tail : Bytes} {times : List NtpTimestamp} :
    ExtendedBlocks (blockType::reserved::l0::l1::tail) times ↔ ∃ n more, n = 4*(u16FromBeBytes l0 l1).toNat ∧
      n ≤ tail.length ∧ ExtendedBlocks (tail.drop n) more ∧
      times = referenceTimes blockType (tail.take n) ++ more := by
  constructor
  · intro h
    generalize whole : blockType::reserved::l0::l1::tail = raw at h
    cases h with
    | nil => contradiction
    | @block _ _ _ _ body rest times size next =>
      simp only [List.cons.injEq] at whole
      obtain ⟨rfl,rfl,rfl,rfl,rfl⟩ := whole
      refine ⟨_,times,rfl,by simp [size],?_,?_⟩
      · rw [← size,List.drop_left]
        exact next
      · rw [← size,List.take_left]
  · rintro ⟨n,more,size,fits,next,rfl⟩
    have block : ExtendedBlocks (blockType::reserved::l0::l1::(tail.take n ++ tail.drop n)) _ :=
      .block (by rw [List.length_take]; omega) next
    rwa [List.take_append_drop] at block

theorem extendedBlocksSpec {payload : Bytes} (source : SyncSource) (fuel : Nat) {offset : Nat}
    (inside : offset ≤ payload.length) (aligned : (payload.length-offset) % 4 = 0)
    (enough : payload.length-offset < fuel) (out : List ReceiverReferenceTime) :
    (extendedBlocks payload source fuel offset out).Recognises fun all =>
      ∃ times, ExtendedBlocks (payload.drop offset) times ∧ all = out ++ times.map (ReceiverReferenceTime.mk source) := by
  induction fuel generalizing offset out with
  | zero => omega
  | succ fuel ih =>
    by_cases header : offset+4 ≤ payload.length
    · simp only [extendedBlocks,if_pos header]
      rw [indexByte (by omega),indexByte (by omega),indexByte (by omega),dropFour header]
      simp only [extendedCons,Outcome.okBind]
      generalize size : (u16FromBeBytes (byteAt payload (offset+2)) (byteAt payload (offset+3))).toNat = words
      refine Outcome.Recognises.reject _ ?_ ?_
      · rintro long all ⟨_,⟨n,more,same,fits,_⟩,_⟩
        rw [List.length_drop] at fits
        omega
      · intro fits
        rw [referenceTimeBlockIn source _ (by omega)]
        refine (ih (by omega : offset+4+words*4 ≤ payload.length) (by omega) (by omega) _).congr ?_
        intro all
        constructor
        · rintro ⟨times,next,rfl⟩
          refine ⟨_,⟨words*4,times,by omega,by rw [List.length_drop]; omega,?_,rfl⟩,?_⟩
          · rwa [List.drop_drop]
          · rw [List.map_append,List.append_assoc]
        · rintro ⟨_,⟨n,times,rfl,_,next,rfl⟩,rfl⟩
          rw [List.drop_drop,Nat.mul_comm] at next
          refine ⟨times,next,?_⟩
          rw [List.map_append,List.append_assoc,Nat.mul_comm]
    · have done : payload.drop offset = [] := List.drop_of_length_le (by omega)
      simp only [extendedBlocks,if_neg header,done]
      refine (Outcome.Recognises.ok out).congr ?_
      intro all
      constructor
      · rintro rfl
        exact ⟨[],.nil,by simp⟩
      · rintro ⟨times,empty,rfl⟩
        cases empty
        simp

theorem reportBlocksAppends (payload : Bytes) (source : SyncSource) (n offset : Nat) (out : List ReceiverReport) :
    reportBlocks payload source n offset out =
      reportBlocks payload source n offset [] >>= fun reports => .ok (out ++ reports) := by
  induction n generalizing offset out with
  | zero => simp [reportBlocks]
  | succ n ih =>
    simp only [reportBlocks,Outcome.iteBind,Outcome.errBind,Outcome.bindAssoc,List.nil_append]
    congr 1
    repeat' (congr 1; funext _)
    rw [ih,ih _ [_]]
    simp

theorem referenceTimeBlockAppends (payload : Bytes) (source : SyncSource) (blockType : UInt8)
    (offset length : Nat) (out : List ReceiverReferenceTime) :
    referenceTimeBlock payload source blockType offset length out =
      referenceTimeBlock payload source blockType offset length [] >>= fun times => .ok (out ++ times) := by
  simp only [referenceTimeBlock,Outcome.iteBind,Outcome.bindAssoc,Outcome.pureEq,Outcome.okBind,List.nil_append,
    List.append_nil]

theorem extendedBlocksAppends (payload : Bytes) (source : SyncSource) (fuel offset : Nat)
    (out : List ReceiverReferenceTime) : extendedBlocks payload source fuel offset out =
      extendedBlocks payload source fuel offset [] >>= fun times => .ok (out ++ times) := by
  induction fuel generalizing offset out with
  | zero => rfl
  | succ fuel ih =>
    simp only [extendedBlocks,Outcome.iteBind,Outcome.errBind,Outcome.okBind,Outcome.bindAssoc,List.append_nil]
    congr 1
    repeat' (congr 1; funext _)
    rw [referenceTimeBlockAppends]
    simp only [Outcome.bindAssoc,Outcome.okBind]
    congr 2
    funext times
    rw [ih _ (out ++ times),ih _ times]
    simp

theorem parsePacketAppends (header : RtcpHeader) (payload : Bytes) (out : CompoundRtcpPacket) :
    parsePacket header payload out = parsePacket header payload empty >>= fun result => .ok (out.append result) := by
  have reports (out : List ReceiverReport) : parseReceiverReport payload header.count out =
      parseReceiverReport payload header.count [] >>= fun reports => .ok (out ++ reports) := by
    simp only [parseReceiverReport,Outcome.iteBind,Outcome.errBind,Outcome.bindAssoc]
    congr 2
    funext source
    exact reportBlocksAppends ..
  have times (out : List ReceiverReferenceTime) : parseExtendedReports payload out =
      parseExtendedReports payload [] >>= fun times => .ok (out ++ times) := by
    simp only [parseExtendedReports,Outcome.iteBind,Outcome.errBind,Outcome.bindAssoc]
    congr 2
    funext source
    exact extendedBlocksAppends ..
  unfold parsePacket
  split
  · rw [reports]
    simp [CompoundRtcpPacket.append,empty]
  · split
    · simp [parsePayloadSpecific,parseCastFeedback,CompoundRtcpPacket.append,empty]
    · split
      · rw [times]
        simp [CompoundRtcpPacket.append,empty]
      · simp [CompoundRtcpPacket.append,empty]

inductive Packet (count : UInt8) (payload : Bytes) : UInt8 → CompoundRtcpPacket → Prop where
  | receiverReport (blocks : 4+24*count.toNat ≤ payload.length) :
      Packet count payload rtcpReceiverReport {empty with
        receiverReports := strided (reportAt (u32At payload 0) payload) 4 24 count.toNat}
  | pictureLoss (subtype : count = rtcpSubtypePictureLoss) (sources : 8 ≤ payload.length) :
      Packet count payload rtcpPayloadSpecific {empty with
        pictureLoss := [⟨u32At payload 0,u32At payload 4⟩]}
  | castFeedback (subtype : count = rtcpSubtypeFeedback) (body : CastBody payload) :
      Packet count payload rtcpPayloadSpecific {empty with castFeedbacks := [castFeedbackAt payload]}
  | payloadSpecific (subtype : count ≠ rtcpSubtypePictureLoss ∧ count ≠ rtcpSubtypeFeedback) :
      Packet count payload rtcpPayloadSpecific empty
  | extendedReports {times : List NtpTimestamp} (source : 4 ≤ payload.length)
      (blocks : ExtendedBlocks (payload.drop 4) times) :
      Packet count payload rtcpExtendedReports {empty with
        receiverReferenceTimes := times.map (ReceiverReferenceTime.mk (u32At payload 0))}
  | other {packetType : UInt8} (unread : packetType ≠ rtcpReceiverReport ∧ packetType ≠ rtcpPayloadSpecific ∧
      packetType ≠ rtcpExtendedReports) : Packet count payload packetType empty

theorem parsePayloadSpecificSpec (payload : Bytes) (count : UInt8) :
    (parsePayloadSpecific payload count empty).Recognises (Packet count payload rtcpPayloadSpecific) := by
  unfold parsePayloadSpecific
  by_cases picture : count = rtcpSubtypePictureLoss
  · rw [if_pos picture]
    have sources {result : CompoundRtcpPacket} (h : Packet count payload rtcpPayloadSpecific result) :
        8 ≤ payload.length ∧ result = {empty with pictureLoss := [⟨u32At payload 0,u32At payload 4⟩]} := by
      cases h with
      | pictureLoss subtype sources => exact ⟨sources,rfl⟩
      | castFeedback subtype body => simp [picture,rtcpSubtypePictureLoss,rtcpSubtypeFeedback] at subtype
      | payloadSpecific subtype => exact absurd picture subtype.1
      | other unread => exact absurd rfl unread.2.1
    refine Outcome.Recognises.reject _ (fun short result h => by have long := (sources h).1; omega) ?_
    intro long
    rw [readU32In (by omega),readU32In (by omega)]
    refine (Outcome.Recognises.ok _).congr ?_
    intro result
    constructor
    · rintro rfl
      exact .pictureLoss picture (by omega)
    · intro h
      exact (sources h).2
  · rw [if_neg picture]
    by_cases feedback : count = rtcpSubtypeFeedback
    · rw [if_pos feedback]
      refine (parseCastFeedbackSpec payload empty).congr ?_
      intro result
      constructor
      · rintro ⟨body,rfl⟩
        exact .castFeedback feedback body
      · intro h
        cases h with
        | pictureLoss subtype sources => exact absurd subtype picture
        | castFeedback subtype body => exact ⟨body,rfl⟩
        | payloadSpecific subtype => exact absurd feedback subtype.2
        | other unread => exact absurd rfl unread.2.1
    · rw [if_neg feedback]
      refine (Outcome.Recognises.ok _).congr ?_
      intro result
      constructor
      · rintro rfl
        exact .payloadSpecific ⟨picture,feedback⟩
      · intro h
        cases h with
        | pictureLoss subtype sources => exact absurd subtype picture
        | castFeedback subtype body => exact absurd subtype feedback
        | payloadSpecific subtype => rfl
        | other unread => rfl

theorem parseExtendedReportsSpec {payload : Bytes} (aligned : payload.length % 4 = 0) :
    (parseExtendedReports payload []).Recognises fun all => 4 ≤ payload.length ∧
      ∃ times, ExtendedBlocks (payload.drop 4) times ∧
        all = times.map (ReceiverReferenceTime.mk (u32At payload 0)) := by
  refine Outcome.Recognises.reject _ (fun short all h => by have long := h.1; omega) ?_
  intro long
  rw [readU32In (by omega)]
  refine (extendedBlocksSpec _ _ (by omega) (by omega) (by omega) []).congr ?_
  intro all
  simp only [List.nil_append]
  exact ⟨fun h => ⟨by omega,h⟩,And.right⟩

theorem parsePacketSpec (header : RtcpHeader) {payload : Bytes} (aligned : payload.length % 4 = 0) :
    (parsePacket header payload empty).Recognises (Packet header.count payload header.packetType) := by
  obtain ⟨count,packetType,length⟩ := header
  unfold parsePacket
  by_cases report : packetType = rtcpReceiverReport
  · subst report
    rw [if_pos rfl]
    refine ((parseReceiverReportSpec payload count []).bind fun _ _ => Outcome.Recognises.ok _).congr ?_
    intro result
    constructor
    · rintro ⟨_,⟨blocks,rfl⟩,rfl⟩
      exact .receiverReport blocks
    · intro h
      cases h with
      | receiverReport blocks => exact ⟨_,⟨blocks,rfl⟩,rfl⟩
      | other unread => exact absurd rfl unread.1
  · rw [if_neg report]
    by_cases specific : packetType = rtcpPayloadSpecific
    · subst specific
      rw [if_pos rfl]
      exact parsePayloadSpecificSpec payload count
    · rw [if_neg specific]
      by_cases extended : packetType = rtcpExtendedReports
      · subst extended
        rw [if_pos rfl]
        refine ((parseExtendedReportsSpec aligned).bind fun _ _ => Outcome.Recognises.ok _).congr ?_
        intro result
        constructor
        · rintro ⟨_,⟨source,times,blocks,rfl⟩,rfl⟩
          exact .extendedReports source blocks
        · intro h
          cases h with
          | extendedReports source blocks => exact ⟨_,⟨source,_,blocks,rfl⟩,rfl⟩
          | other unread => exact absurd rfl unread.2.2
      · rw [if_neg extended]
        refine (Outcome.Recognises.ok _).congr ?_
        intro result
        constructor
        · rintro rfl
          exact .other ⟨report,specific,extended⟩
        · intro h
          cases h <;> first | contradiction | rfl

end Chromiacast
