import Chromiacast.Basis.Bytes

/-! Computations that return, fail with an error or stop on an out-of-range
access. Indexing and slicing are checked, so a parser that never leaves its
input is one whose outcome is never `panic`. -/
namespace Basis

inductive Outcome (ε α : Type*) where
  | ok (value : α)
  | err (error : ε)
  | panic
  deriving DecidableEq, Repr

namespace Outcome
variable {ε α β : Type*}

def bind (x : Outcome ε α) (f : α → Outcome ε β) : Outcome ε β :=
  match x with
  | ok value => f value
  | err error => err error
  | panic => panic

instance : Monad (Outcome ε) where
  pure := ok
  bind := bind

@[simp] theorem pureEq {ε α : Type} (a : α) : (pure a : Outcome ε α) = ok a := rfl
@[simp] theorem okBind {ε α β : Type} (a : α) (f : α → Outcome ε β) : (ok a >>= f) = f a := rfl
@[simp] theorem errBind {ε α β : Type} (e : ε) (f : α → Outcome ε β) :
    ((err e : Outcome ε α) >>= f) = err e := rfl
@[simp] theorem panicBind {ε α β : Type} (f : α → Outcome ε β) :
    ((panic : Outcome ε α) >>= f) = panic := rfl

theorem bindOkIff {ε α β : Type} {x : Outcome ε α} {f : α → Outcome ε β} {b : β} :
    (x >>= f) = ok b ↔ ∃ a, x = ok a ∧ f a = ok b := by
  cases x <;> simp

theorem bindReturns {ε α β : Type} {x : Outcome ε α} {f : α → Outcome ε β} (first : x ≠ panic)
    (next : ∀ a, f a ≠ panic) : (x >>= f) ≠ panic := by
  cases x with
  | ok a => exact next a
  | err e => simp
  | panic => exact absurd rfl first

@[simp] theorem bindAssoc {ε α β γ : Type} (x : Outcome ε α) (f : α → Outcome ε β) (g : β → Outcome ε γ) :
    ((x >>= f) >>= g) = (x >>= fun a => f a >>= g) := by
  cases x <;> rfl

@[simp] theorem iteBind {ε α β : Type} (c : Prop) [Decidable c] (x y : Outcome ε α) (f : α → Outcome ε β) :
    ((if c then x else y) >>= f) = if c then x >>= f else y >>= f := by
  split <;> rfl

def Recognises {ε α : Type} (x : Outcome ε α) (R : α → Prop) : Prop := (∀ a, x = ok a ↔ R a) ∧ x ≠ panic

namespace Recognises
variable {ε α β : Type} {x : Outcome ε α} {R : α → Prop}

theorem ok (a : α) : Recognises (Outcome.ok a : Outcome ε α) (fun b => b = a) :=
  ⟨fun b => by simp [eq_comm],by simp⟩

theorem err (e : ε) (never : ∀ a, ¬ R a) : Recognises (Outcome.err e) R :=
  ⟨fun a => by simp [never a],by simp⟩

theorem congr {Q : α → Prop} (h : Recognises x R) (same : ∀ a, R a ↔ Q a) : Recognises x Q :=
  ⟨fun a => (h.1 a).trans (same a),h.2⟩

theorem reject {c : Prop} [Decidable c] (e : ε) (never : c → ∀ a, ¬ R a) (otherwise : ¬ c → Recognises x R) :
    Recognises (if c then Outcome.err e else x) R := by
  split
  · exact err e (never (by assumption))
  · exact otherwise (by assumption)

theorem bind {f : α → Outcome ε β} {S : α → β → Prop} (h : Recognises x R)
    (next : ∀ a, R a → Recognises (f a) (S a)) : Recognises (x >>= f) (fun b => ∃ a, R a ∧ S a b) := by
  constructor
  · intro b
    rw [bindOkIff]
    constructor
    · rintro ⟨a,returned,rest⟩
      have allowed := (h.1 a).mp returned
      exact ⟨a,allowed,((next a allowed).1 b).mp rest⟩
    · rintro ⟨a,allowed,rest⟩
      exact ⟨a,(h.1 a).mpr allowed,((next a allowed).1 b).mpr rest⟩
  · cases result : x with
    | ok a => exact (next a ((h.1 a).mp result)).2
    | err e => simp
    | panic => exact absurd result h.2

theorem map (h : Recognises x R) (g : α → β) :
    Recognises (x >>= fun a => Outcome.ok (g a)) (fun b => ∃ a, R a ∧ b = g a) :=
  h.bind fun a _ => ok (g a)

theorem refuses (h : Recognises x R) (never : ∀ a, ¬ R a) : ∃ e, x = Outcome.err e := by
  cases x with
  | ok a => exact absurd ((h.1 a).mp rfl) (never a)
  | err e => exact ⟨e,rfl⟩
  | panic => exact absurd rfl h.2

end Recognises

end Outcome

def index {ε α : Type} (data : List α) (i : Nat) : Outcome ε α :=
  match data[i]? with
  | some value => .ok value
  | none => .panic

def slice {ε α : Type} (data : List α) (first last : Nat) : Outcome ε (List α) :=
  if first ≤ last ∧ last ≤ data.length then .ok ((data.drop first).take (last-first)) else .panic

def getRange {α : Type} (data : List α) (first last : Nat) : Option (List α) :=
  if first ≤ last ∧ last ≤ data.length then some ((data.drop first).take (last-first)) else none

theorem indexIn {ε α : Type} {data : List α} {i : Nat} (inside : i < data.length) :
    (index data i : Outcome ε α) = .ok data[i] := by
  simp [index,inside]

theorem sliceIn {ε α : Type} {data : List α} {first last : Nat} (order : first ≤ last)
    (inside : last ≤ data.length) :
    (slice data first last : Outcome ε (List α)) = .ok ((data.drop first).take (last-first)) := by
  simp [slice,order,inside]

theorem getRangeIn {α : Type} {data : List α} {first last : Nat} (order : first ≤ last)
    (inside : last ≤ data.length) : getRange data first last = some ((data.drop first).take (last-first)) := by
  simp [getRange,order,inside]

theorem sliceRest {ε α : Type} {data : List α} {first : Nat} (inside : first ≤ data.length) :
    (slice data first data.length : Outcome ε (List α)) = .ok (data.drop first) := by
  rw [sliceIn inside (Nat.le_refl _),List.take_of_length_le (by rw [List.length_drop])]

end Basis
