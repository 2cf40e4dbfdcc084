import Chromiacast.BurstBudget

/-! What pacing bounds. The charge for a packet stops at an empty bucket, so what a
packet overdraws is never paid back: over any stretch of calls the bytes sent stay
below one bucket, the peak rate and the shortfalls of the packets sent beyond
their credit. One shortfall is less than a packet; two are not. -/
namespace Chromiacast
open Basis

def Sent.shortfall (s : Sent) : Nat := s.length-s.credit

def Sent.overdrawn (s : Sent) : Bool := s.credit < s.length

def bytes (sent : List Sent) : Nat := (sent.map Sent.length).sum

def shortfalls (sent : List Sent) : Nat := (sent.map Sent.shortfall).sum

/- Datagrams sent between two budgets: all but the shortfalls came out of the first
budget and what was paid in meanwhile. -/
structure Paid (b : BurstBudget) (income : Nat) (sent : List Sent) (c : BurstBudget) : Prop where
  sound : c.Sound
  capacity : c.capacityBytes = b.capacityBytes
  paid : bytes sent*nanosPerSecond+c.level ≤ b.level+income+shortfalls sent*nanosPerSecond

theorem Paid.none {b : BurstBudget} (sound : b.Sound) : Paid b 0 [] b :=
  ⟨sound,rfl,by simp [bytes,shortfalls]⟩

theorem Paid.trans {b c d : BurstBudget} {i j : Nat} {first second : List Sent} (p : Paid b i first c)
    (q : Paid c j second d) : Paid b (i+j) (first ++ second) d := by
  refine ⟨q.sound,q.capacity.trans p.capacity,?_⟩
  have one := p.paid
  have two := q.paid
  simp only [bytes,shortfalls,List.map_append,List.sum_append,Nat.add_mul] at one two ⊢
  omega

theorem flushPacketsPaid (fuel : Nat) (s : StreamState) {b : BurstBudget} (sound : b.Sound) :
    let result := s.flushPackets fuel b
    Paid b 0 result.1 result.2.2 ∧ result.2.2.lastRefill = b.lastRefill := by
  induction fuel generalizing s b with
  | zero => exact ⟨Paid.none sound,rfl⟩
  | succ fuel ih =>
    simp only [StreamState.flushPackets]
    split
    · split
      · exact ⟨Paid.none sound,rfl⟩
      · rename_i outbound t sent
        obtain ⟨rest,refill⟩ := ih (t.recordPacketSent outbound.packet.data.length outbound.retransmission)
          (BurstBudget.consumeSound sound outbound.packet.data.length)
        have charge : Paid b 0 [⟨outbound,b.availableBytes⟩] (b.consume outbound.packet.data.length) :=
          ⟨BurstBudget.consumeSound sound _,rfl,by
            simpa [bytes,shortfalls,Sent.shortfall,Sent.length] using b.consumeLevel outbound.packet.data.length⟩
        exact ⟨charge.trans rest,refill⟩
    · exact ⟨Paid.none sound,rfl⟩

theorem flushStreamPaid (stream : Option StreamState) {b : BurstBudget} (sound : b.Sound) :
    let result := flushStreamPackets stream b
    Paid b 0 result.1 result.2.2 ∧ result.2.2.lastRefill = b.lastRefill := by
  cases stream with
  | none => exact ⟨Paid.none sound,rfl⟩
  | some s => exact flushPacketsPaid s.queued s sound

theorem flushQueuedPaid {p : Pacer} (sound : p.budget.Sound) (now : Nat) :
    Paid (p.budget.refill now) 0 (flushQueuedPackets p now).2 (flushQueuedPackets p now).1.budget ∧
      (flushQueuedPackets p now).1.budget.lastRefill = now := by
  obtain ⟨refilled,_,time,_⟩ := BurstBudget.refillSpec sound now
  obtain ⟨audio,ta⟩ := flushStreamPaid p.session.audio refilled
  obtain ⟨video,tv⟩ := flushStreamPaid p.session.video audio.sound
  exact ⟨audio.trans video,tv.trans (ta.trans time)⟩

inductive PacedOperation where
  | session (operation : Session.SessionOperation)
  | flush (now : Nat)

def PacedOperation.time : PacedOperation → Option Nat
  | .session _ => none
  | .flush now => some now

namespace Pacer

def step (aes : BlockCipher) (p : Pacer) : PacedOperation → Pacer × List Sent
  | .session operation => ({p with session := p.session.step aes operation},[])
  | .flush now => flushQueuedPackets p now

def new (session : Session) (now : Nat) : Pacer := ⟨session,BurstBudget.new now⟩

def times (operations : List PacedOperation) : List Nat := operations.filterMap PacedOperation.time

theorem runPaid (aes : BlockCipher) {p : Pacer} (sound : p.budget.Sound) (operations : List PacedOperation)
    (ordered : (p.budget.lastRefill::times operations).Pairwise (· ≤ ·)) :
    let after := Machine.run (step aes) p operations
    Paid p.budget ((after.1.budget.lastRefill-p.budget.lastRefill)*(maxBurstBitrate/8)) after.2.flatten
        after.1.budget ∧
      p.budget.lastRefill ≤ after.1.budget.lastRefill ∧
      after.1.budget.lastRefill ∈ p.budget.lastRefill::times operations := by
  induction operations generalizing p with
  | nil =>
    refine ⟨?_,le_refl _,List.mem_cons_self⟩
    simpa using Paid.none sound
  | cons operation rest ih =>
    cases operation with
    | session operation =>
      exact ih (p := {p with session := p.session.step aes operation}) sound ordered
    | flush now =>
      obtain ⟨later,ordered⟩ := List.pairwise_cons.mp ordered
      have forward : p.budget.lastRefill ≤ now := later now (by simp [times,PacedOperation.time])
      obtain ⟨refilled,capacity,_,income⟩ := BurstBudget.refillSpec sound now
      obtain ⟨flushed,time⟩ := flushQueuedPaid sound now
      obtain ⟨remaining,after,last⟩ := ih flushed.sound (by rw [time]; exact ordered)
      rw [time] at remaining after last
      have refill : Paid p.budget ((now-p.budget.lastRefill)*(maxBurstBitrate/8)) [] (p.budget.refill now) :=
        ⟨refilled,capacity,by simpa [bytes,shortfalls] using income⟩
      have all := (refill.trans flushed).trans remaining
      refine ⟨?_,forward.trans after,List.mem_cons_of_mem _ last⟩
      have span (last : Nat) (low : now ≤ last) :
          now-p.budget.lastRefill+(last-now) = last-p.budget.lastRefill := by omega
      rw [Nat.add_zero,← Nat.add_mul,span _ after] at all
      exact all

def straddles (lengths : List Nat) (credit : Nat) : Bool :=
  (List.range lengths.length).any fun k => (lengths.take k).sum < credit && credit < (lengths.take (k+1)).sum

theorem straddlesCons (length : Nat) (rest : List Nat) (credit : Nat) :
    straddles (length::rest) credit = (decide (0 < credit ∧ credit < length) || straddles rest (credit-length)) := by
  have later (k : Nat) : (((length::rest).take (k+1)).sum < credit ∧ credit < ((length::rest).take (k+1+1)).sum) ↔
      ((rest.take k).sum < credit-length ∧ credit-length < (rest.take (k+1)).sum) := by
    rw [List.take_succ_cons,List.take_succ_cons,List.sum_cons,List.sum_cons]
    omega
  rw [Bool.eq_iff_iff]
  simp only [straddles,List.length_cons,List.range_succ_eq_map,List.any_cons,List.any_map,Function.comp_def,
    Nat.succ_eq_add_one,List.any_eq_true,Bool.or_eq_true,Bool.and_eq_true,decide_eq_true_eq,later]
  simp

theorem straddlesUniform {count size credit k : Nat} (inside : k < count)
    (crosses : k*size < credit ∧ credit < (k+1)*size) : straddles (List.replicate count size) credit = true := by
  refine List.any_eq_true.mpr ⟨k,by simpa using inside,?_⟩
  simpa [List.take_replicate,Nat.min_eq_left inside.le,Nat.min_eq_left (Nat.succ_le_of_lt inside)] using crosses

theorem chargesOverdrawn (credit : Nat) (lengths : List Nat) :
    (charges credit lengths).countP (fun charge => charge.2 < charge.1) = if straddles lengths credit then 1 else 0 := by
  induction lengths generalizing credit with
  | nil => rfl
  | cons length rest ih =>
    rw [straddlesCons]
    by_cases empty : credit = 0
    · simp [charges,empty,straddles]
    · rw [charges,if_neg empty,List.countP_cons,ih]
      by_cases beyond : credit < length
      · have none' : straddles rest (credit-length) = false := by
          rw [Nat.sub_eq_zero_of_le beyond.le]
          simp [straddles]
        simp [beyond,none',Nat.pos_of_ne_zero empty]
      · simp [beyond]

def overdraws (p : Pacer) (now : Nat) : Bool :=
  straddles p.session.queuedLengths (p.budget.refill now).availableBytes

theorem flushOverdrawn (p : Pacer) (now : Nat) :
    (flushQueuedPackets p now).2.countP Sent.overdrawn = if p.overdraws now then 1 else 0 := by
  rw [overdraws,← chargesOverdrawn,← flushQueuedCharges,List.countP_map]
  rfl

def overdrafts (aes : BlockCipher) (p : Pacer) : List PacedOperation → Nat
  | [] => 0
  | .session operation::rest => overdrafts aes (step aes p (.session operation)).1 rest
  | .flush now::rest => (if p.overdraws now then 1 else 0)+overdrafts aes (step aes p (.flush now)).1 rest

theorem runOverdrawn (aes : BlockCipher) (p : Pacer) (operations : List PacedOperation) :
    (Machine.run (step aes) p operations).2.flatten.countP Sent.overdrawn = overdrafts aes p operations := by
  induction operations generalizing p with
  | nil => rfl
  | cons operation rest ih =>
    rw [Machine.runCons,List.flatten_cons,List.countP_append,ih]
    cases operation with
    | session operation => simp [step,overdrafts]
    | flush now =>
      rw [overdrafts,← flushOverdrawn]
      rfl

theorem shortfallsBound {sent : List Sent} {m : Nat} (small : ∀ s ∈ sent, s.length ≤ m) :
    shortfalls sent ≤ sent.countP Sent.overdrawn*m := by
  induction sent with
  | nil => simp [shortfalls]
  | cons s rest ih =>
    have bound := small s List.mem_cons_self
    have others := ih fun r member => small r (List.mem_cons_of_mem _ member)
    have total : shortfalls (s::rest) = s.shortfall+shortfalls rest := by simp [shortfalls]
    rw [total,List.countP_cons,Nat.add_mul]
    by_cases excess : s.overdrawn
    · rw [if_pos excess,Sent.shortfall]
      omega
    · have paid : s.shortfall = 0 := by
        simp only [Sent.overdrawn,decide_eq_true_eq] at excess
        rw [Sent.shortfall]
        omega
      omega

theorem windowBytes (aes : BlockCipher) {p : Pacer} (sound : p.budget.Sound) (ti tj : Nat)
    (later : List PacedOperation) (ordered : (ti::times later).Pairwise (· ≤ ·))
    (inside : ∀ t ∈ times (.flush ti::later), t ≤ tj) :
    let sent := (Machine.run (step aes) p (.flush ti::later)).2.flatten
    bytes sent ≤ p.budget.capacityBytes+(tj-ti)*(maxBurstBitrate/8)/nanosPerSecond+shortfalls sent := by
  obtain ⟨refilled,capacity,_,_⟩ := BurstBudget.refillSpec sound ti
  obtain ⟨flushed,time⟩ := flushQueuedPaid sound ti
  obtain ⟨remaining,after,last⟩ := runPaid aes flushed.sound later (by rw [time]; exact ordered)
  rw [time] at remaining after last
  have paid := (flushed.trans remaining).paid
  have level := refilled.levelBound
  rw [capacity] at level
  have span : (Machine.run (step aes) (flushQueuedPackets p ti).1 later).1.budget.lastRefill-ti ≤ tj-ti := by
    have latest := inside _ last
    omega
  have income := Nat.mul_le_mul_right (maxBurstBitrate/8) span
  intro sent
  have spent : (bytes sent-(p.budget.capacityBytes+shortfalls sent))*nanosPerSecond ≤ (tj-ti)*(maxBurstBitrate/8) := by
    have bound : bytes sent*nanosPerSecond+_ ≤ _+_+shortfalls sent*nanosPerSecond := paid
    rw [Nat.sub_mul,Nat.add_mul]
    omega
  have whole := (Nat.le_div_iff_mul_le (by decide : 0 < nanosPerSecond)).mpr spent
  omega

def sentIn (aes : BlockCipher) (session : Session) (start : Nat) (earlier stretch : List PacedOperation) : List Sent :=
  (Machine.run (step aes) (Machine.run (step aes) (new session start) earlier).1 stretch).2.flatten

end Pacer

theorem roundsSucc {size credit : Nat} (positive : 0 < size) (some' : credit ≠ 0) :
    (credit+size-1)/size = (credit-size+size-1)/size+1 := by
  by_cases large : size ≤ credit
  · have shift : credit+size-1 = credit-size+size-1+size := by omega
    rw [shift,Nat.add_div_right _ positive]
  · have one : credit+size-1 = credit-1+size := by omega
    have none' : credit-size+size-1 = size-1 := by omega
    rw [one,none',Nat.add_div_right _ positive,Nat.div_eq_of_lt (by omega),Nat.div_eq_of_lt (by omega)]

theorem flushUniform {size : Nat} (positive : 0 < size) (fuel : Nat) {s : StreamState} {b : BurstBudget}
    (drained : s.retransmitQueue = []) (uniform : ∀ q ∈ s.sendQueue, q.packet.data.length = size)
    (enough : s.sendQueue.length ≤ fuel) :
    let result := s.flushPackets fuel b
    let n := min s.sendQueue.length ((b.availableBytes+size-1)/size)
    result.1.map Sent.length = List.replicate n size ∧
    result.1.map Sent.credit = (List.range n).map (fun i => b.availableBytes-i*size) ∧
    result.2.1.retransmitQueue = [] ∧ result.2.1.sendQueue = s.sendQueue.drop n ∧
    result.2.2 = {b with availableBytes := b.availableBytes-n*size} := by
  induction fuel generalizing s b with
  | zero =>
    have empty : s.sendQueue = [] := List.length_eq_zero_iff.mp (by omega)
    simp [StreamState.flushPackets,drained,empty]
  | succ fuel ih =>
    cases queue : s.sendQueue with
    | nil => simp [StreamState.flushPackets,StreamState.nextPacket,drained,queue]
    | cons q rest =>
      by_cases empty : b.availableBytes = 0
      · have none' : (size-1)/size = 0 := Nat.div_eq_of_lt (by omega)
        have stopped : s.flushPackets (fuel+1) b = ([],s,b) := by
          simp [StreamState.flushPackets,BurstBudget.hasCredit,empty]
        have rounds : min (q::rest).length ((b.availableBytes+size-1)/size) = 0 := by
          rw [empty,Nat.zero_add,none',Nat.min_zero]
        rw [stopped,rounds]
        simp [drained,queue]
      · let t := StreamState.recordPacketSent {s with sendQueue := rest} size false
        have length : q.packet.data.length = size := uniform q (by simp [queue])
        have sent : s.nextPacket = (some ⟨q.packet,false⟩,{s with sendQueue := rest}) := by
          simp [StreamState.nextPacket,drained,queue]
        have round : s.flushPackets (fuel+1) b =
            (⟨⟨q.packet,false⟩,b.availableBytes⟩::(t.flushPackets fuel (b.consume size)).1,
              (t.flushPackets fuel (b.consume size)).2) := by
          simp [StreamState.flushPackets,BurstBudget.hasCredit,empty,sent,length,t]
        have shorter : rest.length ≤ fuel := by simpa [queue] using enough
        obtain ⟨lengths,credits,retransmit,send,budget⟩ := ih (s := t) (b := b.consume size) drained
          (fun r member => uniform r (by rw [queue]; exact List.mem_cons_of_mem _ member)) shorter
        have tail : t.sendQueue = rest := rfl
        have credit : (b.consume size).availableBytes = b.availableBytes-size := rfl
        rw [tail,credit] at lengths credits send budget
        have rounds : min (q::rest).length ((b.availableBytes+size-1)/size) =
            min rest.length ((b.availableBytes-size+size-1)/size)+1 := by
          rw [roundsSucc positive empty,List.length_cons]
          omega
        rw [round,rounds]
        generalize min rest.length ((b.availableBytes-size+size-1)/size) = n at lengths credits send budget
        have less (k : Nat) : b.availableBytes-size-k*size = b.availableBytes-(k+1)*size := by
          rw [Nat.add_mul,Nat.one_mul]
          omega
        refine ⟨?_,?_,retransmit,send,?_⟩
        · simp only [List.map_cons,lengths,List.replicate_succ]
          exact congrArg (· :: _) length
        · simp only [List.map_cons,credits,List.range_succ_eq_map,List.map_map,Function.comp_def,less]
          simp
        · rw [budget,less]
          rfl

namespace Pacer

def exampleStream : StreamState :=
  StreamState.new ⟨50001,2,101,90000,millis 400,false,Vector.replicate 16 7,Vector.replicate 16 9,1472,roomIpv4⟩ 0

def largeKeyFrame : EncodedFrame := ⟨.keyFrame,List.replicate 184023 0,0,0,none⟩

def enqueueLarge : List PacedOperation := [.session (.stream .video (.enqueueFrame largeKeyFrame))]

theorem largeQueue (aes : BlockCipher) {frame : EncodedFrame} {n : Nat} (positive : 0 < n)
    (length : frame.data.length = n*1449) :
    let s := exampleStream.acceptFrame aes frame
    s.retransmitQueue = [] ∧ s.sendQueue.length = n ∧ ∀ q ∈ s.sendQueue, q.packet.data.length = 1468 := by
  let cipher := exampleStream.crypto.encrypt aes exampleStream.nextFrameId frame.data
  have size : cipher.length = n*1449 := (encryptLength ..).trans length
  have count : exampleStream.packetizer.numPackets cipher = n := RtpPacketizer.fullPackets positive size
  have packets := RtpPacketizer.packetizeSpec exampleStream.packetizer (exampleStream.fields frame) cipher
  rw [count] at packets
  have queue : (exampleStream.acceptFrame aes frame).sendQueue = (List.range n).map (fun i => QueuedPacket.mk
      exampleStream.nextFrameId ((exampleStream.packetizer.after i).packet (exampleStream.fields frame) n cipher i)) := by
    have accepted : (exampleStream.acceptFrame aes frame).sendQueue = [] ++
        (exampleStream.packetizer.packetize (exampleStream.fields frame) cipher).1.map
          (QueuedPacket.mk exampleStream.nextFrameId) := rfl
    rw [accepted,packets,List.map_map]
    rfl
  refine ⟨rfl,by simp [queue],?_⟩
  intro q member
  rw [queue] at member
  obtain ⟨i,inside,rfl⟩ := List.mem_map.mp member
  have bound := List.mem_range.mp inside
  have extension : RtpPacketizer.extension (exampleStream.fields frame) i = [] := by
    unfold RtpPacketizer.extension
    cases i <;> rfl
  rw [RtpPacketizer.packetLength,RtpPacketizer.chunkLength,extension,size]
  have same : (exampleStream.packetizer.after i).maxPayloadSize = 1449 := rfl
  have header : rtpBaseHeaderSize = 19 := rfl
  rw [same,header,List.length_nil]
  omega

theorem enqueuedLarge (aes : BlockCipher) :
    (Machine.run (step aes) (new ⟨none,some exampleStream⟩ 0) enqueueLarge).1 =
      ⟨⟨none,some (exampleStream.acceptFrame aes largeKeyFrame)⟩,BurstBudget.new 0⟩ := by
  have nonempty : largeKeyFrame.data ≠ [] := List.ne_nil_of_length_pos (by
    rw [largeKeyFrame,List.length_replicate]
    decide)
  have accepted : (StreamState.step aes exampleStream (.enqueueFrame largeKeyFrame)).1 =
      exampleStream.acceptFrame aes largeKeyFrame := by
    rw [StreamState.step,exampleStream,StreamState.enqueueNew aes _ _ rfl nonempty]
  exact congrArg (fun s => Pacer.mk ⟨none,some s⟩ (BurstBudget.new 0)) accepted

theorem flushVideo {size : Nat} (positive : 0 < size) (s : StreamState) (b : BurstBudget) (now : Nat)
    (drained : s.retransmitQueue = []) (uniform : ∀ q ∈ s.sendQueue, q.packet.data.length = size) :
    let n := min s.sendQueue.length (((b.refill now).availableBytes+size-1)/size)
    let result := flushQueuedPackets ⟨⟨none,some s⟩,b⟩ now
    result.2.map Sent.length = List.replicate n size ∧
    result.2.map Sent.credit = (List.range n).map (fun i => (b.refill now).availableBytes-i*size) ∧
    ∃ t : StreamState, t.retransmitQueue = [] ∧ t.sendQueue = s.sendQueue.drop n ∧
      result.1 = ⟨⟨none,some t⟩,{b.refill now with availableBytes := (b.refill now).availableBytes-n*size}⟩ := by
  have enough : s.sendQueue.length ≤ s.queued := by
    rw [StreamState.queued]
    omega
  obtain ⟨lengths,credits,retransmit,send,budget⟩ :=
    flushUniform positive s.queued (b := b.refill now) drained uniform enough
  refine ⟨lengths,credits,_,retransmit,send,?_⟩
  rw [← budget]
  rfl

/- The first flush empties the bucket with the 115th packet and leaves 12 behind. -/
theorem flushedLarge (aes : BlockCipher) :
    let first := flushQueuedPackets ⟨⟨none,some (exampleStream.acceptFrame aes largeKeyFrame)⟩,BurstBudget.new 0⟩ 0
    first.2.map Sent.length = List.replicate 115 1468 ∧
    first.2.map Sent.credit = (List.range 115).map (fun i => 167772-i*1468) ∧
    ∃ t : StreamState, t.retransmitQueue = [] ∧ t.sendQueue.length = 12 ∧
      (∀ q ∈ t.sendQueue, q.packet.data.length = 1468) ∧ first.1 = ⟨⟨none,some t⟩,⟨167772,0,0,0⟩⟩ := by
  have length : largeKeyFrame.data.length = 127*1449 := by rw [largeKeyFrame,List.length_replicate]
  obtain ⟨drained,count,uniform⟩ := largeQueue aes (by decide) length
  have full : (BurstBudget.new 0).refill 0 = ⟨167772,167772,0,0⟩ := by decide
  obtain ⟨lengths,credits,t,retransmit,send,after⟩ := flushVideo (by decide) _ (BurstBudget.new 0) 0 drained uniform
  rw [count,full] at lengths credits send after
  refine ⟨lengths,credits,t,retransmit,?_,?_,after⟩
  · rw [send,List.length_drop,count]
    decide
  · intro q member
    rw [send] at member
    exact uniform q (List.mem_of_mem_drop member)

theorem uniformBytes {sent : List Sent} {n size : Nat} (lengths : sent.map Sent.length = List.replicate n size) :
    bytes sent = n*size ∧ ∀ s ∈ sent, s.length ≤ size := by
  refine ⟨by rw [bytes,lengths,List.sum_replicate,smul_eq_mul],?_⟩
  intro s member
  have listed : s.length ∈ sent.map Sent.length := List.mem_map_of_mem member
  rw [lengths] at listed
  exact (List.eq_of_mem_replicate listed).le

theorem pacingCeiling (aes : BlockCipher) (session : Session) (start ti tj m : Nat)
    (earlier later : List PacedOperation)
    (ordered : (start::times (earlier ++ .flush ti::later)).Pairwise (· ≤ ·))
    (inside : ∀ t ∈ times (.flush ti::later), t ≤ tj)
    (small : ∀ s ∈ sentIn aes session start earlier (.flush ti::later), s.length ≤ m)
    (once : overdrafts aes (Machine.run (step aes) (new session start) earlier).1 (.flush ti::later) ≤ 1) :
    bytes (sentIn aes session start earlier (.flush ti::later)) ≤
      (BurstBudget.new start).capacityBytes+(tj-ti)*(maxBurstBitrate/8)/10^9+1+m := by
  have split : start::times (earlier ++ .flush ti::later) = (start::times earlier) ++ ti::times later := by
    simp [times,PacedOperation.time]
  rw [split,List.pairwise_append] at ordered
  obtain ⟨prior,_⟩ := runPaid aes (p := new session start) (BurstBudget.newSound start) earlier ordered.1
  have total : bytes (sentIn aes session start earlier (.flush ti::later)) ≤ _ :=
    windowBytes aes prior.sound ti tj later ordered.2.1 inside
  have excess := (shortfallsBound small).trans (Nat.mul_le_mul_right m ((runOverdrawn aes _ _).trans_le once))
  have capacity : _ = (BurstBudget.new start).capacityBytes := prior.capacity
  rw [capacity] at total
  have scale : nanosPerSecond = 10^9 := rfl
  rw [scale] at total
  have same : shortfalls (Machine.run (step aes) (Machine.run (step aes) (new session start) earlier).1
    (.flush ti::later)).2.flatten = shortfalls (sentIn aes session start earlier (.flush ti::later)) := rfl
  omega

theorem pacingOverrun :
    let sent := sentIn (fun _ block => block) ⟨none,some exampleStream⟩ 0 enqueueLarge [.flush 0,.flush 1000000]
    (∀ s ∈ sent, s.length ≤ 1468) ∧
    (BurstBudget.new 0).capacityBytes+(1000000-0)*(maxBurstBitrate/8)/10^9+1+1468 < bytes sent := by
  intro sent
  obtain ⟨first,_,t,drained,count,uniform,left⟩ := flushedLarge (fun _ block => block)
  obtain ⟨second,_⟩ := flushVideo (by decide) t ⟨167772,0,0,0⟩ 1000000 drained uniform
  have refilled : ((BurstBudget.mk 167772 0 0 0).refill 1000000).availableBytes = 16777 := by decide
  rw [count,refilled,show min 12 ((16777+1468-1)/1468) = 12 from rfl] at second
  have lengths : sent.map Sent.length = List.replicate 127 1468 := by
    have runs : sent = (flushQueuedPackets ⟨⟨none,some (exampleStream.acceptFrame (fun _ block => block)
        largeKeyFrame)⟩,BurstBudget.new 0⟩ 0).2 ++ (flushQueuedPackets ⟨⟨none,some t⟩,⟨167772,0,0,0⟩⟩ 1000000).2 := by
      simp only [sent,sentIn,enqueuedLarge,Machine.run,step,left,List.flatten_cons,List.flatten_nil,List.append_nil]
    rw [runs,List.map_append,first,second,List.replicate_append_replicate]
  obtain ⟨total,small⟩ := uniformBytes lengths
  refine ⟨small,?_⟩
  rw [total]
  decide

theorem largeOverdraft (aes : BlockCipher) :
    overdrafts aes (Machine.run (step aes) (new ⟨none,some exampleStream⟩ 0) enqueueLarge).1 [.flush 0] = 1 := by
  have length : largeKeyFrame.data.length = 127*1449 := by rw [largeKeyFrame,List.length_replicate]
  obtain ⟨drained,count,uniform⟩ := largeQueue aes (by decide) length
  have lengths : (exampleStream.acceptFrame aes largeKeyFrame).queuedLengths = List.replicate 127 1468 := by
    rw [StreamState.queuedLengths,drained,List.nil_append,List.eq_replicate_iff]
    exact ⟨by rw [List.length_map,count],by simpa using uniform⟩
  have full : ((BurstBudget.new 0).refill 0).availableBytes = 167772 := by decide
  have crossed : overdraws ⟨⟨none,some (exampleStream.acceptFrame aes largeKeyFrame)⟩,BurstBudget.new 0⟩ 0 = true := by
    rw [overdraws,full,Session.queuedLengths,Option.elim_none,Option.elim_some,List.nil_append,lengths]
    exact straddlesUniform (k := 114) (by decide) (by decide)
  rw [enqueuedLarge,overdrafts,crossed]
  rfl

theorem pacingOneFlush :
    let sent := sentIn (fun _ block => block) ⟨none,some exampleStream⟩ 0 enqueueLarge [.flush 0]
    bytes sent = 168820 ∧ bytes sent ≤ (BurstBudget.new 0).capacityBytes+(0-0)*(maxBurstBitrate/8)/10^9+1+1468 := by
  intro sent
  obtain ⟨first,_⟩ := flushedLarge (fun _ block => block)
  have runs : sent = (flushQueuedPackets ⟨⟨none,some (exampleStream.acceptFrame (fun _ block => block)
      largeKeyFrame)⟩,BurstBudget.new 0⟩ 0).2 := by
    simp only [sent,sentIn,enqueuedLarge,Machine.run,step,List.flatten_cons,List.flatten_nil,List.append_nil]
  rw [← runs] at first
  obtain ⟨total,small⟩ := uniformBytes first
  exact ⟨total,pacingCeiling (fun _ block => block) ⟨none,some exampleStream⟩ 0 0 0 1468 enqueueLarge []
    (by decide) (by decide) small (largeOverdraft _).le⟩

end Pacer
end Chromiacast
