import Chromiacast.Isolation

/-! Burst pacing. A bucket of credit is refilled at the peak rate whenever queued
packets are flushed, and every packet is charged after it is sent. Arithmetic
saturates where the source's does; transport errors end a session and are left out. -/
namespace Chromiacast
open Basis

def maxBurstBitrate : Nat := 128 <<< 20
def burstInterval : Nat := millis 10
def nanosPerSecond : Nat := 1000000000
def u128Max : Nat := 2^128-1
def usizeMax : Nat := 2^64-1

structure BurstBudget where
  capacityBytes : Nat
  availableBytes : Nat
  fractionalByteNanos : Nat
  lastRefill : Nat
  deriving DecidableEq, Repr

namespace BurstBudget

def new (now : Nat) : BurstBudget :=
  let bytesPerSecond := maxBurstBitrate/8
  let capacityBytes := max (min (min (bytesPerSecond*burstInterval) u128Max/nanosPerSecond) usizeMax) 1
  ⟨capacityBytes,capacityBytes,0,now⟩

def refill (b : BurstBudget) (now : Nat) : BurstBudget :=
  let elapsedNanos := now-b.lastRefill
  if b.availableBytes = b.capacityBytes then {b with lastRefill := now, fractionalByteNanos := 0} else
    let scaledBytes := min (min (elapsedNanos*(maxBurstBitrate/8)) u128Max+b.fractionalByteNanos) u128Max
    let addedBytes := scaledBytes/nanosPerSecond
    let availableBytes := min (min (b.availableBytes+min addedBytes usizeMax) usizeMax) b.capacityBytes
    ⟨b.capacityBytes,availableBytes,
      if availableBytes = b.capacityBytes then 0 else scaledBytes%nanosPerSecond,now⟩

def hasCredit (b : BurstBudget) : Bool := b.availableBytes ≠ 0

def consume (b : BurstBudget) (bytes : Nat) : BurstBudget := {b with availableBytes := b.availableBytes-bytes}

end BurstBudget

structure Sent where
  outbound : OutboundPacket
  credit : Nat
  deriving DecidableEq, Repr

def Sent.length (s : Sent) : Nat := s.outbound.packet.data.length

namespace StreamState

/- One round per queued packet is enough: every round sends one. -/
def flushPackets : Nat → StreamState → BurstBudget → List Sent × StreamState × BurstBudget
  | 0,s,budget => ([],s,budget)
  | fuel+1,s,budget =>
    if budget.hasCredit then
      match s.nextPacket with
      | (none,_) => ([],s,budget)
      | (some outbound,t) =>
        let length := outbound.packet.data.length
        let rest := flushPackets fuel (t.recordPacketSent length outbound.retransmission) (budget.consume length)
        (⟨outbound,budget.availableBytes⟩::rest.1,rest.2)
    else ([],s,budget)

def queued (s : StreamState) : Nat := s.retransmitQueue.length+s.sendQueue.length

end StreamState

def flushStreamPackets (stream : Option StreamState) (budget : BurstBudget) :
    List Sent × Option StreamState × BurstBudget :=
  match stream with
  | none => ([],none,budget)
  | some s =>
    let result := s.flushPackets s.queued budget
    (result.1,some result.2.1,result.2.2)

structure Pacer where
  session : Session
  budget : BurstBudget
  deriving DecidableEq, Repr

def flushQueuedPackets (p : Pacer) (now : Nat) : Pacer × List Sent :=
  let audio := flushStreamPackets p.session.audio (p.budget.refill now)
  let video := flushStreamPackets p.session.video audio.2.2
  (⟨⟨audio.2.1,video.2.1⟩,video.2.2⟩,audio.1 ++ video.1)

namespace StreamState

def queuedLengths (s : StreamState) : List Nat :=
  (s.retransmitQueue ++ s.sendQueue).map fun queued => queued.packet.data.length

theorem queuedCount (s : StreamState) : s.queuedLengths.length = s.queued := by
  simp [queuedLengths,queued]

theorem nextPacketSome {s t : StreamState} {outbound : OutboundPacket} (next : s.nextPacket = (some outbound,t)) :
    s.queuedLengths = outbound.packet.data.length::t.queuedLengths := by
  unfold nextPacket at next
  split at next
  · rename_i queued rest head
    cases next
    simp [queuedLengths,head]
  · rename_i drained
    split at next
    · rename_i queued rest head
      cases next
      simp [queuedLengths,head,drained]
    · simp at next

theorem nextPacketNone {s t : StreamState} (next : s.nextPacket = (none,t)) : s.queuedLengths = [] := by
  unfold nextPacket at next
  split at next
  · simp at next
  · rename_i drained
    split at next
    · simp at next
    · rename_i empty
      simp [queuedLengths,drained,empty]

theorem recordLengths (s : StreamState) (length : Nat) (retransmission : Bool) :
    (s.recordPacketSent length retransmission).queuedLengths = s.queuedLengths := by
  obtain ⟨_,_,_,written⟩ := s.recordPacketSentWrites length retransmission
  rw [written]
  rfl

end StreamState

def charges : Nat → List Nat → List (Nat × Nat)
  | _,[] => []
  | credit,length::rest => if credit = 0 then [] else (length,credit)::charges (credit-length) rest

theorem chargesEmpty (lengths : List Nat) : charges 0 lengths = [] := by
  cases lengths <;> rfl

theorem chargesAppend (credit : Nat) (a b : List Nat) :
    charges credit (a ++ b) = charges credit a ++ charges (credit-a.sum) b := by
  induction a generalizing credit with
  | nil => simp [charges]
  | cons length rest ih =>
    by_cases empty : credit = 0
    · simp [empty,charges,chargesEmpty]
    · simp [empty,charges,ih,Nat.sub_sub]

/- The rounds never cut the source's loop short: it sends while credit and packets last. -/
theorem flushPacketsCharges {fuel : Nat} {s : StreamState} (enough : s.queued ≤ fuel) (b : BurstBudget) :
    let result := s.flushPackets fuel b
    result.1.map (fun sent => (sent.length,sent.credit)) = charges b.availableBytes s.queuedLengths ∧
      result.2.2.availableBytes = b.availableBytes-s.queuedLengths.sum := by
  induction fuel generalizing s b with
  | zero =>
    have none' : s.queuedLengths = [] := List.length_eq_zero_iff.mp (by rw [s.queuedCount]; omega)
    simp [StreamState.flushPackets,none',charges]
  | succ fuel ih =>
    simp only [StreamState.flushPackets]
    by_cases empty : b.availableBytes = 0
    · simp [BurstBudget.hasCredit,empty,chargesEmpty]
    · simp only [BurstBudget.hasCredit,ne_eq,empty,not_false_eq_true,decide_true,if_true]
      split
      · rename_i t none'
        simp [StreamState.nextPacketNone none',charges]
      · rename_i outbound t next
        have lengths := StreamState.nextPacketSome next
        have fewer := congrArg List.length lengths
        rw [List.length_cons,s.queuedCount,t.queuedCount] at fewer
        have same := t.recordLengths outbound.packet.data.length outbound.retransmission
        obtain ⟨sent,left⟩ := ih (s := t.recordPacketSent outbound.packet.data.length outbound.retransmission)
          (by rw [← StreamState.queuedCount,same,t.queuedCount]; omega) (b.consume outbound.packet.data.length)
        rw [same] at sent left
        rw [lengths,charges,if_neg empty,List.map_cons,List.sum_cons,sent,left]
        exact ⟨rfl,Nat.sub_sub _ _ _⟩

def Session.queuedLengths (s : Session) : List Nat :=
  s.audio.elim [] StreamState.queuedLengths ++ s.video.elim [] StreamState.queuedLengths

theorem flushStreamCharges (stream : Option StreamState) (b : BurstBudget) :
    let result := flushStreamPackets stream b
    result.1.map (fun sent => (sent.length,sent.credit)) =
        charges b.availableBytes (stream.elim [] StreamState.queuedLengths) ∧
      result.2.2.availableBytes = b.availableBytes-(stream.elim [] StreamState.queuedLengths).sum := by
  cases stream with
  | none => exact ⟨rfl,rfl⟩
  | some s => exact flushPacketsCharges (Nat.le_refl _) b

theorem flushQueuedCharges (p : Pacer) (now : Nat) :
    (flushQueuedPackets p now).2.map (fun sent => (sent.length,sent.credit)) =
      charges (p.budget.refill now).availableBytes p.session.queuedLengths := by
  obtain ⟨audio,left⟩ := flushStreamCharges p.session.audio (p.budget.refill now)
  obtain ⟨video,_⟩ := flushStreamCharges p.session.video (flushStreamPackets p.session.audio (p.budget.refill now)).2.2
  rw [left] at video
  rw [flushQueuedPackets,List.map_append,audio,video,Session.queuedLengths,chargesAppend]

namespace BurstBudget

def level (b : BurstBudget) : Nat := b.availableBytes*nanosPerSecond+b.fractionalByteNanos

structure Sound (b : BurstBudget) : Prop where
  bounded : b.availableBytes ≤ b.capacityBytes
  fraction : b.fractionalByteNanos < nanosPerSecond
  full : b.availableBytes = b.capacityBytes → b.fractionalByteNanos = 0

theorem newSound (now : Nat) : Sound (new now) :=
  ⟨le_refl _,(by decide : 0 < nanosPerSecond),fun _ => rfl⟩

theorem Sound.levelBound {b : BurstBudget} (sound : b.Sound) : b.level ≤ b.capacityBytes*nanosPerSecond := by
  have fraction := sound.fraction
  rcases Nat.lt_or_eq_of_le sound.bounded with less | full
  · have step : (b.availableBytes+1)*nanosPerSecond ≤ b.capacityBytes*nanosPerSecond := Nat.mul_le_mul_right _ less
    rw [level]
    rw [Nat.add_mul,Nat.one_mul] at step
    omega
  · rw [level,sound.full full,full]
    omega

theorem refillSpec {b : BurstBudget} (sound : b.Sound) (now : Nat) :
    (b.refill now).Sound ∧ (b.refill now).capacityBytes = b.capacityBytes ∧ (b.refill now).lastRefill = now ∧
      (b.refill now).level ≤ b.level+(now-b.lastRefill)*(maxBurstBitrate/8) := by
  unfold refill
  by_cases full : b.availableBytes = b.capacityBytes
  · simp only [if_pos full]
    refine ⟨⟨sound.bounded,(by decide : 0 < nanosPerSecond),fun _ => rfl⟩,trivial,trivial,?_⟩
    simp only [level]
    omega
  · simp only [if_neg full]
    generalize scaled : min (min ((now-b.lastRefill)*(maxBurstBitrate/8)) u128Max+b.fractionalByteNanos) u128Max = x
    have income : x ≤ (now-b.lastRefill)*(maxBurstBitrate/8)+b.fractionalByteNanos := by omega
    have division := Nat.div_add_mod x nanosPerSecond
    have remainder : x % nanosPerSecond < nanosPerSecond := Nat.mod_lt _ (by decide)
    generalize available : min (min (b.availableBytes+min (x/nanosPerSecond) usizeMax) usizeMax) b.capacityBytes = a
    have added : a ≤ b.availableBytes+x/nanosPerSecond := by omega
    refine ⟨⟨by simp only; omega,?_,fun same => if_pos same⟩,trivial,trivial,?_⟩
    · simp only
      split
      · decide
      · exact remainder
    · have scaledUp : a*nanosPerSecond ≤ (b.availableBytes+x/nanosPerSecond)*nanosPerSecond :=
        Nat.mul_le_mul_right _ added
      rw [Nat.add_mul,Nat.mul_comm (x/nanosPerSecond)] at scaledUp
      have kept : (if a = b.capacityBytes then 0 else x % nanosPerSecond) ≤ x % nanosPerSecond := by
        split <;> omega
      simp only [level]
      omega

theorem consumeSound {b : BurstBudget} (sound : b.Sound) (bytes : Nat) : (b.consume bytes).Sound := by
  have bounded := sound.bounded
  refine ⟨by simp only [consume]; omega,sound.fraction,?_⟩
  intro same
  exact sound.full (by simp only [consume] at same; omega)

theorem consumeLevel (b : BurstBudget) (bytes : Nat) :
    bytes*nanosPerSecond+(b.consume bytes).level ≤ b.level+(bytes-b.availableBytes)*nanosPerSecond := by
  have split : bytes+(b.availableBytes-bytes) = b.availableBytes+(bytes-b.availableBytes) := by omega
  have scaled := congrArg (· * nanosPerSecond) split
  simp only [Nat.add_mul] at scaled
  simp only [level,consume]
  omega

/- What the source's types and comments promise of a budget; only whether a full bucket has
dropped its fraction is left open. -/
structure Bounded (b : BurstBudget) : Prop where
  word : b.capacityBytes ≤ usizeMax
  credit : b.availableBytes ≤ b.capacityBytes
  fraction : b.fractionalByteNanos < nanosPerSecond

theorem newBounded (now : Nat) : Bounded (new now) :=
  ⟨by simp only [new]; exact max_le (min_le_right _ _) (by decide),le_refl _,(by decide : 0 < nanosPerSecond)⟩

def atLevel (capacityBytes level now : Nat) : BurstBudget :=
  ⟨capacityBytes,level/nanosPerSecond,level%nanosPerSecond,now⟩

theorem levelAtLevel (capacityBytes level now : Nat) : (atLevel capacityBytes level now).level = level := by
  simp only [atLevel,BurstBudget.level,nanosPerSecond]
  omega

/- Both roundings cancel: a refill moves the level by the exact income, up to a full bucket. The
saturated sums are beyond every capacity, so they fill the bucket as the exact ones do. -/
theorem refillLevel {b : BurstBudget} (bounded : b.Bounded) (now : Nat) :
    b.refill now = atLevel b.capacityBytes
      (min (b.level+(now-b.lastRefill)*(maxBurstBitrate/8)) (b.capacityBytes*nanosPerSecond)) now := by
  obtain ⟨word,credit,fraction⟩ := bounded
  have rate : maxBurstBitrate/8 = 16777216 := by decide
  unfold refill
  by_cases full : b.availableBytes = b.capacityBytes
  · simp only [if_pos full,atLevel,level,nanosPerSecond,mk.injEq,true_and,and_true]
    omega
  · simp only [if_neg full,atLevel,level,rate,mk.injEq,true_and,and_true]
    generalize (now-b.lastRefill)*16777216 = income
    generalize available : min (min (b.availableBytes+min (min (min income u128Max+b.fractionalByteNanos) u128Max/
      nanosPerSecond) usizeMax) usizeMax) b.capacityBytes = a
    simp only [nanosPerSecond,usizeMax,u128Max] at word fraction available ⊢
    refine ⟨by omega,?_⟩
    by_cases filled : a = b.capacityBytes
    · rw [if_pos filled]
      omega
    · rw [if_neg filled]
      omega

theorem atLevelBounded {capacityBytes level : Nat} (word : capacityBytes ≤ usizeMax)
    (fits : level ≤ capacityBytes*nanosPerSecond) (now : Nat) : (atLevel capacityBytes level now).Bounded := by
  have credit : level/nanosPerSecond ≤ capacityBytes := Nat.div_le_of_le_mul (by rwa [Nat.mul_comm])
  have positive : 0 < nanosPerSecond := by decide
  exact ⟨word,credit,Nat.mod_lt level positive⟩

theorem refillCapacity (b : BurstBudget) (now : Nat) : (b.refill now).capacityBytes = b.capacityBytes := by
  unfold refill
  split <;> rfl

theorem refillTime (b : BurstBudget) (now : Nat) : (b.refill now).lastRefill = now := by
  unfold refill
  split <;> rfl

theorem refillBounded {b : BurstBudget} (bounded : b.Bounded) (now : Nat) : (b.refill now).Bounded := by
  rw [refillLevel bounded now]
  exact atLevelBounded bounded.word (min_le_right _ _) now

theorem consumeBounded {b : BurstBudget} (bounded : b.Bounded) (bytes : Nat) : (b.consume bytes).Bounded :=
  ⟨bounded.word,(Nat.sub_le _ _).trans bounded.credit,bounded.fraction⟩

theorem cappedTwice (level first second capacity : Nat) :
    min (min (level+first) capacity+second) capacity = min (level+(first+second)) capacity := by
  omega

theorem refillTwice {b : BurstBudget} (bounded : b.Bounded) {first second : Nat} (early : b.lastRefill ≤ first)
    (late : first ≤ second) : (b.refill first).refill second = b.refill second := by
  have income : (second-b.lastRefill)*(maxBurstBitrate/8) =
      (first-b.lastRefill)*(maxBurstBitrate/8)+(second-first)*(maxBurstBitrate/8) := by
    rw [← Nat.add_mul,Nat.add_comm,Nat.sub_add_sub_cancel late early]
  have again := refillLevel (refillBounded bounded first) second
  rw [refillCapacity,refillTime] at again
  rw [again,refillLevel bounded first,levelAtLevel,cappedTwice,← income,refillLevel bounded second]

theorem refillsOnce {b : BurstBudget} (bounded : b.Bounded) (times : List Nat) {last : Nat}
    (ordered : (b.lastRefill::(times ++ [last])).Pairwise (· ≤ ·)) :
    (times ++ [last]).foldl refill b = b.refill last := by
  induction times generalizing b with
  | nil => rfl
  | cons time rest ih =>
    obtain ⟨after,tail⟩ := List.pairwise_cons.mp ordered
    have early : b.lastRefill ≤ time := after time (by simp)
    have late : time ≤ last := (List.pairwise_cons.mp tail).1 last (by simp)
    have next := ih (refillBounded bounded time) (by rw [refillTime]; exact tail)
    rw [List.cons_append,List.foldl_cons,next,refillTwice bounded early late]

inductive Operation where
  | refill (now : Nat)
  | consume (bytes : Nat)
  deriving DecidableEq, Repr

def apply (b : BurstBudget) : Operation → BurstBudget
  | .refill now => b.refill now
  | .consume bytes => b.consume bytes

theorem applyBounded {b : BurstBudget} (bounded : b.Bounded) (operation : Operation) : (b.apply operation).Bounded := by
  cases operation with
  | refill now => exact refillBounded bounded now
  | consume bytes => exact consumeBounded bounded bytes

theorem operationsBounded {b : BurstBudget} (bounded : b.Bounded) (operations : List Operation) :
    (operations.foldl apply b).Bounded := by
  induction operations generalizing b with
  | nil => exact bounded
  | cons operation rest ih => exact ih (applyBounded bounded operation)

theorem refillLossless {b : BurstBudget} (bounded : b.Bounded) :
    (∀ (times : List Nat) (last : Nat), (b.lastRefill::(times ++ [last])).Pairwise (· ≤ ·) →
        (times ++ [last]).foldl refill b = b.refill last) ∧
      ∀ operations : List Operation, (operations.foldl apply b).availableBytes ≤
          (operations.foldl apply b).capacityBytes ∧
        (operations.foldl apply b).fractionalByteNanos < nanosPerSecond := by
  refine ⟨fun times last ordered => refillsOnce bounded times ordered,fun operations => ?_⟩
  have after := operationsBounded bounded operations
  exact ⟨after.credit,after.fraction⟩

theorem refillLosslessDrained : ([7,60] ++ [10000010]).foldl refill ((new 0).consume 167772) =
    ((new 0).consume 167772).refill 10000010 :=
  (refillLossless (consumeBounded (newBounded 0) 167772)).1 [7,60] 10000010 (by decide)

end BurstBudget

end Chromiacast
