import Mathlib

/-! A bounded channel with one producer. The consumer may read at any moment, also
between a look at the free slots and the send that follows; reading only frees slots.
A producer that keeps a reserve for its last value never finds the channel full then.
The log has everything that was ever queued and the peak how much was ever unread. -/
namespace Basis

structure Channel (α : Type*) where
  slots : Nat
  queue : List α
  log : List α
  peak : Nat
  deriving DecidableEq, Repr

namespace Channel
variable {α : Type*}

def new (slots : Nat) : Channel α := ⟨slots,[],[],0⟩

def capacity (c : Channel α) : Nat := c.slots-c.queue.length

def read (c : Channel α) (n : Nat) : Channel α := {c with queue := c.queue.drop n}

/- A value that finds no slot is dropped. -/
def trySend (c : Channel α) (a : α) : Channel α :=
  if c.capacity = 0 then c
  else {c with queue := c.queue ++ [a], log := c.log ++ [a], peak := max c.peak (c.queue.length+1)}

structure Reads where
  before : Nat
  between : Nat
  deriving DecidableEq, Repr

inductive Emission (α : Type*) where
  | nonterminal (a : α)
  | terminal (a : α)
  deriving DecidableEq, Repr

def emit (reserve : Nat) (c : Channel α) (reads : Reads) : Emission α → Channel α
  | .nonterminal a =>
    if reserve < (c.read reads.before).capacity then ((c.read reads.before).read reads.between).trySend a
    else c.read reads.before
  | .terminal a => (c.read reads.before).trySend a

def emitAll (reserve : Nat) (reads : Nat → Reads) : Nat → Channel α → List (Emission α) → Channel α
  | _,c,[] => c
  | k,c,emission::rest => emitAll reserve reads (k+1) (c.emit reserve (reads k) emission) rest

structure Within (limit : Nat) (c : Channel α) : Prop where
  queued : c.queue.length ≤ c.peak
  limited : c.peak ≤ limit

variable {c : Channel α} {limit reserve : Nat}

theorem newWithin (slots limit : Nat) : Within limit (new slots : Channel α) := ⟨Nat.zero_le _,Nat.zero_le _⟩

theorem readWithin (within : c.Within limit) (n : Nat) : (c.read n).Within limit := by
  refine ⟨?_,within.limited⟩
  have queued := within.queued
  simp only [read,List.length_drop]
  omega

theorem trySendFree (within : c.Within limit) (room : limit < c.slots) (a : α) :
    (c.trySend a).Within (limit+1) ∧ (c.trySend a).log = c.log ++ [a] ∧ (c.trySend a).slots = c.slots := by
  have queued := within.queued
  have limited := within.limited
  have free : ¬ c.capacity = 0 := by
    rw [capacity]
    omega
  simp only [trySend,if_neg free]
  refine ⟨⟨?_,?_⟩,trivial,trivial⟩
  · simp only [List.length_append,List.length_singleton]
    omega
  · simp only
    omega

theorem emitNonterminal (within : c.Within (c.slots-reserve)) (kept : reserve ≤ c.slots) (reads : Reads) (a : α) :
    let d := c.emit reserve reads (.nonterminal a)
    d.Within (d.slots-reserve) ∧ d.slots = c.slots ∧ (d.log = c.log ∨ d.log = c.log ++ [a]) := by
  simp only [emit]
  split
  · rename_i free
    have queued := (readWithin within reads.before).queued
    have later : ((c.read reads.before).read reads.between).Within (c.slots-reserve) :=
      readWithin (readWithin within reads.before) reads.between
    have shorter : ((c.read reads.before).read reads.between).queue.length < c.slots-reserve := by
      simp only [capacity,read,List.length_drop] at free ⊢
      omega
    have vacant : ¬ ((c.read reads.before).read reads.between).capacity = 0 := by
      rw [capacity]
      simp only [read] at shorter ⊢
      omega
    simp only [trySend,if_neg vacant]
    refine ⟨⟨?_,?_⟩,rfl,.inr rfl⟩
    · simp only [List.length_append,List.length_singleton]
      omega
    · have limited := later.limited
      simp only [read] at limited shorter ⊢
      omega
  · exact ⟨readWithin within reads.before,rfl,.inl rfl⟩

theorem emitAllNonterminal (within : c.Within (c.slots-reserve)) (kept : reserve ≤ c.slots) (reads : Nat → Reads)
    (k : Nat) (values : List α) :
    let d := emitAll reserve reads k c (values.map .nonterminal)
    d.Within (d.slots-reserve) ∧ d.slots = c.slots ∧
      ∃ queued, d.log = c.log ++ queued ∧ queued.Sublist values := by
  induction values generalizing c k with
  | nil => exact ⟨within,rfl,[],(List.append_nil _).symm,List.Sublist.refl _⟩
  | cons a rest ih =>
    obtain ⟨first,slots,log⟩ := emitNonterminal within kept (reads k) a
    obtain ⟨later,slots',queued,log',sub⟩ := ih first (by rw [slots]; exact kept) (k+1)
    refine ⟨later,slots'.trans slots,?_⟩
    rcases log with same | added
    · exact ⟨queued,by rw [← same]; exact log',sub.cons a⟩
    · refine ⟨a::queued,?_,sub.cons_cons a⟩
      rw [added,List.append_assoc] at log'
      exact log'

theorem emitAllAppend (reads : Nat → Reads) (k : Nat) (first second : List (Emission α)) :
    emitAll reserve reads k c (first ++ second) =
      emitAll reserve reads (k+first.length) (emitAll reserve reads k c first) second := by
  induction first generalizing c k with
  | nil => rfl
  | cons emission rest ih =>
    simp only [List.cons_append,emitAll,ih,List.length_cons]
    congr 1
    omega

theorem emitTerminal (within : c.Within (c.slots-reserve)) (positive : 0 < reserve) (kept : reserve ≤ c.slots)
    (reads : Reads) (a : α) :
    let d := c.emit reserve reads (.terminal a)
    d.Within (c.slots-reserve+1) ∧ d.log = c.log ++ [a] ∧ d.slots = c.slots :=
  trySendFree (readWithin within reads.before) (by simp only [read]; omega) a

end Channel

end Basis
