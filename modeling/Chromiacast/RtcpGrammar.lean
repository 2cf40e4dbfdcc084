import Chromiacast.RtcpPackets

/-! The grammar of compound feedback. A compound is a sequence of packets, each with
a version, a length that counts its 32-bit words and a payload that is well formed
for its type. The parser accepts exactly these byte strings, never looks outside
them and returns the results of the packets in their order. -/
namespace Chromiacast
open Basis CompoundRtcpPacket

theorem appendAssoc (a b c : CompoundRtcpPacket) : (a.append b).append c = a.append (b.append c) := by
  simp [CompoundRtcpPacket.append]

theorem emptyAppend (a : CompoundRtcpPacket) : empty.append a = a := by
  simp [CompoundRtcpPacket.append,empty]

theorem appendEmpty (a : CompoundRtcpPacket) : a.append empty = a := by
  simp [CompoundRtcpPacket.append,empty]

theorem headerParsed (b0 b1 b2 b3 : UInt8) (tail : Bytes) : RtcpHeader.parse (b0::b1::b2::b3::tail) =
    if (b0 >>> 6) &&& 0x03 ≠ 2 then .err .badVersion else .ok ⟨b0 &&& 0x1F,b1,u16FromBeBytes b2 b3⟩ := by
  have long : ¬ (b0::b1::b2::b3::tail).length < 4 := by simp
  rw [RtcpHeader.parse,if_neg long]
  rfl

theorem compoundStep {data tail : Bytes} {b0 b1 b2 b3 : UInt8} {offset : Nat}
    (here : data.drop offset = b0::b1::b2::b3::tail) (fuel : Nat) (result : CompoundRtcpPacket) :
    compoundLoop data (fuel+1) offset result =
      if (b0 >>> 6) &&& 0x03 ≠ 2 then .err .badVersion
      else if tail.length < 4*(u16FromBeBytes b2 b3).toNat then .err .truncated
      else parsePacket ⟨b0 &&& 0x1F,b1,u16FromBeBytes b2 b3⟩ (tail.take (4*(u16FromBeBytes b2 b3).toNat)) result >>=
        compoundLoop data fuel (offset+(4+4*(u16FromBeBytes b2 b3).toNat)) := by
  have lengths := congrArg List.length here
  simp only [List.length_drop,List.length_cons] at lengths
  have rest : tail = data.drop (offset+4) := by
    rw [← List.drop_drop,here]
    rfl
  rw [compoundLoop,if_pos (by omega),sliceIn (by omega) (le_refl _),Outcome.okBind,
    List.take_of_length_le (by simp),here,headerParsed]
  split
  · rfl
  · simp only [Outcome.okBind]
    by_cases short : tail.length < 4*(u16FromBeBytes b2 b3).toNat
    · rw [if_pos (by omega),if_pos short]
    · rw [if_neg (by omega),if_neg short,sliceIn (by omega) (by omega),Outcome.okBind,← rest]
      congr 2
      · congr 1
        omega
      · rw [Nat.mul_comm]

theorem compoundShort {data : Bytes} {offset : Nat} (short : data.length < offset+4) (fuel : Nat)
    (result : CompoundRtcpPacket) : compoundLoop data (fuel+1) offset result =
      if offset ≠ data.length then .err .truncated else .ok result := by
  rw [compoundLoop,if_neg (by omega)]

theorem compoundLoopDrop {data : Bytes} {offset fuel : Nat} (inside : offset ≤ data.length)
    (enough : data.length-offset < fuel) (result : CompoundRtcpPacket) :
    compoundLoop data fuel offset result =
      parseCompound (data.drop offset) >>= fun rest => .ok (result.append rest) := by
  generalize remaining : data.length-offset = n
  induction n using Nat.strong_induction_on generalizing data offset fuel result with
  | _ n ih =>
    obtain ⟨fuel,rfl⟩ : ∃ k, fuel = k+1 := ⟨fuel-1,by omega⟩
    by_cases header : offset+4 ≤ data.length
    · obtain ⟨b0,b1,b2,b3,tail,here⟩ : ∃ b0 b1 b2 b3 tail, data.drop offset = b0::b1::b2::b3::tail :=
        ⟨_,_,_,_,_,dropFour header⟩
      have length := congrArg List.length here
      simp only [List.length_drop,List.length_cons] at length
      rw [here,parseCompound,compoundStep here,compoundStep List.drop_zero]
      generalize 4*(u16FromBeBytes b2 b3).toNat = size
      by_cases version : (b0 >>> 6) &&& 0x03 ≠ 2
      · rw [if_pos version,if_pos version]
        rfl
      · rw [if_neg version,if_neg version]
        by_cases short : tail.length < size
        · rw [if_pos short,if_pos short]
          rfl
        · rw [if_neg short,if_neg short,parsePacketAppends]
          simp only [Outcome.bindAssoc,Outcome.okBind]
          congr 1
          funext x
          rw [ih (data.length-(offset+(4+size))) (by omega) (by omega) (by omega) _ rfl,
            ih (tail.length-size) (by omega) (by simp; omega) (by simp; omega) _ (by simp; omega)]
          simp only [Outcome.bindAssoc,Outcome.okBind,appendAssoc]
          rw [← List.drop_drop,here,Nat.zero_add]
    · rw [parseCompound,compoundShort (by omega),compoundShort (by rw [List.length_drop]; omega)]
      by_cases done : offset = data.length
      · rw [if_neg (by omega),if_neg (by simp; omega),Outcome.okBind,appendEmpty]
      · rw [if_pos done,if_pos (by simp; omega)]
        rfl

theorem parseCompoundShort {data : Bytes} (some' : data ≠ []) (short : data.length < 4) :
    parseCompound data = .err .truncated := by
  have positive := List.length_pos_iff.mpr some'
  rw [parseCompound,compoundShort (by omega),if_pos (by omega)]

theorem parseCompoundCons (b0 b1 b2 b3 : UInt8) (tail : Bytes) :
    parseCompound (b0::b1::b2::b3::tail) =
      if (b0 >>> 6) &&& 0x03 ≠ 2 then .err .badVersion
      else if tail.length < 4*(u16FromBeBytes b2 b3).toNat then .err .truncated
      else
        parsePacket ⟨b0 &&& 0x1F,b1,u16FromBeBytes b2 b3⟩ (tail.take (4*(u16FromBeBytes b2 b3).toNat)) empty >>= fun x =>
          parseCompound (tail.drop (4*(u16FromBeBytes b2 b3).toNat)) >>= fun rest => .ok (x.append rest) := by
  rw [parseCompound,compoundStep List.drop_zero]
  split
  · rfl
  · split
    · rfl
    · congr 1
      funext x
      rw [compoundLoopDrop (by simp; omega) (by simp; omega)]
      rw [show (0+(4+4*(u16FromBeBytes b2 b3).toNat)) = 4*(u16FromBeBytes b2 b3).toNat+4 by omega]
      rfl

inductive Compound : Bytes → CompoundRtcpPacket → Prop where
  | nil : Compound [] empty
  | packet {b0 packetType l0 l1 : UInt8} {payload rest : Bytes} {x result : CompoundRtcpPacket}
      (version : (b0 >>> 6) &&& 0x03 = 2) (size : payload.length = 4*(u16FromBeBytes l0 l1).toNat)
      (valid : Packet (b0 &&& 0x1F) payload packetType x) (next : Compound rest result) :
      Compound (b0::packetType::l0::l1::(payload ++ rest)) (x.append result)

theorem compoundCons {b0 packetType l0 l1 : UInt8} {tail : Bytes} {all : CompoundRtcpPacket} {n : Nat}
    (size : n = 4*(u16FromBeBytes l0 l1).toNat) :
    Compound (b0::packetType::l0::l1::tail) all ↔ (b0 >>> 6) &&& 0x03 = 2 ∧ n ≤ tail.length ∧
      ∃ x, Packet (b0 &&& 0x1F) (tail.take n) packetType x ∧
        ∃ result, Compound (tail.drop n) result ∧ all = x.append result := by
  constructor
  · intro h
    generalize whole : b0::packetType::l0::l1::tail = raw at h
    cases h with
    | nil => contradiction
    | @packet _ _ _ _ payload rest x result version length valid next =>
      simp only [List.cons.injEq] at whole
      obtain ⟨rfl,rfl,rfl,rfl,rfl⟩ := whole
      rw [← length] at size
      subst size
      rw [List.take_left,List.drop_left,List.length_append]
      exact ⟨version,by omega,x,valid,result,next,rfl⟩
  · rintro ⟨version,fits,x,valid,result,next,rfl⟩
    have packet : Compound (b0::packetType::l0::l1::(tail.take n ++ tail.drop n)) _ :=
      .packet version (by rw [List.length_take]; omega) valid next
    rwa [List.take_append_drop] at packet

theorem parseCompoundSpec (data : Bytes) : (parseCompound data).Recognises (Compound data) := by
  generalize length : data.length = n
  induction n using Nat.strong_induction_on generalizing data with
  | _ n ih =>
    match data with
    | [] =>
      refine (Outcome.Recognises.ok empty).congr ?_
      intro result
      constructor
      · rintro rfl
        exact .nil
      · intro h
        cases h
        rfl
    | [_] | [_,_] | [_,_,_] =>
      rw [parseCompoundShort (by simp) (by simp)]
      exact Outcome.Recognises.err _ (fun _ h => nomatch h)
    | b0::b1::b2::b3::tail =>
      have lengths : tail.length+4 = n := by simpa using length
      rw [parseCompoundCons]
      refine Outcome.Recognises.reject _ ?_ ?_
      · intro version all h
        exact version ((compoundCons rfl).mp h).1
      · intro version
        refine Outcome.Recognises.reject _ ?_ ?_
        · intro short all h
          have fits := ((compoundCons rfl).mp h).2.1
          omega
        · intro fits
          have aligned : (tail.take (4*(u16FromBeBytes b2 b3).toNat)).length % 4 = 0 := by
            rw [List.length_take]
            omega
          have packet := parsePacketSpec ⟨b0 &&& 0x1F,b1,u16FromBeBytes b2 b3⟩ aligned
          have rest := ih _ (by rw [List.length_drop]; omega) (tail.drop (4*(u16FromBeBytes b2 b3).toNat)) rfl
          refine (packet.bind fun x _ => rest.bind fun _ _ => Outcome.Recognises.ok _).congr ?_
          intro all
          rw [compoundCons rfl]
          constructor
          · rintro ⟨x,valid,result,next,rfl⟩
            exact ⟨by simpa using version,by omega,x,valid,result,next,rfl⟩
          · rintro ⟨_,_,x,valid,result,next,rfl⟩
            exact ⟨x,valid,result,next,rfl⟩

theorem parseCompoundAppend {a : Bytes} {x : CompoundRtcpPacket} (first : Compound a x) (b : Bytes) :
    parseCompound (a ++ b) = parseCompound b >>= fun y => .ok (x.append y) := by
  induction first with
  | nil =>
    simp only [List.nil_append,emptyAppend]
    cases parseCompound b <;> rfl
  | @packet b0 packetType l0 l1 payload rest x result version size valid next ih =>
    have aligned : payload.length % 4 = 0 := by omega
    have parsed := ((parsePacketSpec ⟨b0 &&& 0x1F,packetType,u16FromBeBytes l0 l1⟩ aligned).1 x).mpr valid
    simp only [List.cons_append,List.append_assoc]
    rw [parseCompoundCons,if_neg (by simpa using version),if_neg (by rw [List.length_append]; omega),← size,
      List.take_left,List.drop_left,parsed,ih]
    simp only [Outcome.okBind,Outcome.bindAssoc,appendAssoc]

theorem compoundGrammar (d : Bytes) :
    parseCompound d ≠ .panic ∧
    (∀ result, parseCompound d = .ok result ↔ Compound d result) ∧
    ∀ x, parseCompound d = .ok x → ∀ b,
      (∀ y, parseCompound b = .ok y → parseCompound (d ++ b) = .ok (x.append y)) ∧
      (∀ error, parseCompound b = .err error → parseCompound (d ++ b) = .err error) := by
  have spec := parseCompoundSpec d
  refine ⟨spec.2,spec.1,?_⟩
  intro x first b
  have both := parseCompoundAppend ((spec.1 x).mp first) b
  constructor
  · intro y second
    rw [both,second]
    rfl
  · intro error second
    rw [both,second]
    rfl

end Chromiacast
