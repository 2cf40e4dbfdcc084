import Mathlib

/-! Programs that put questions and go on with the replies. A dialogue is conducted against
anything that serves questions in time: asked at one moment, replied to at a later one. -/
namespace Basis

inductive Dialogue (Q : Type) (A : Q → Type) (R : Type) where
  | done (result : R)
  | ask (question : Q) (next : A question → Dialogue Q A R)

namespace Dialogue
variable {Q : Type} {A : Q → Type} {R S : Type}

def bind : Dialogue Q A R → (R → Dialogue Q A S) → Dialogue Q A S
  | done result,f => f result
  | ask question next,f => ask question fun reply => (next reply).bind f

def Asks (q : Q) : Dialogue Q A R → Prop
  | done _ => False
  | ask question next => question = q ∨ ∃ reply, (next reply).Asks q

theorem asksBind {d : Dialogue Q A R} {f : R → Dialogue Q A S} {q : Q} (asks : (d.bind f).Asks q) :
    d.Asks q ∨ ∃ result, (f result).Asks q := by
  induction d with
  | done result => exact .inr ⟨result,asks⟩
  | ask question next ih =>
    rcases asks with first | ⟨reply,later⟩
    · exact .inl (.inl first)
    · rcases ih reply later with before | after
      · exact .inl (.inr ⟨reply,before⟩)
      · exact .inr after

def Conducted (serve : Nat → (q : Q) → A q → Nat → Prop) : Nat → Dialogue Q A R → R → Nat → Prop
  | k,done given,result,m => result = given ∧ m = k
  | k,ask question next,result,m => ∃ reply l, serve k question reply l ∧ Conducted serve l (next reply) result m

theorem conductedBind {serve : Nat → (q : Q) → A q → Nat → Prop} {k m : Nat} {d : Dialogue Q A R}
    {f : R → Dialogue Q A S} {result : S} (conducted : Conducted serve k (d.bind f) result m) :
    ∃ middle l, Conducted serve k d middle l ∧ Conducted serve l (f middle) result m := by
  induction d generalizing k with
  | done given => exact ⟨given,k,⟨rfl,rfl⟩,conducted⟩
  | ask question next ih =>
    obtain ⟨reply,l,served,rest⟩ := conducted
    obtain ⟨middle,n,first,second⟩ := ih reply rest
    exact ⟨middle,n,⟨reply,l,served,first⟩,second⟩

abbrev Peer (Q : Type) (A : Q → Type) := List (Σ q, A q) → (q : Q) → A q

def conduct (peer : Peer Q A) : List (Σ q, A q) → Dialogue Q A R → R × List (Σ q, A q)
  | said,done result => (result,said)
  | said,ask question next =>
    let reply := peer said question
    conduct peer (said ++ [⟨question,reply⟩]) (next reply)

theorem conductBind (peer : Peer Q A) (said : List (Σ q, A q)) (d : Dialogue Q A R) (f : R → Dialogue Q A S) :
    conduct peer said (d.bind f) = conduct peer (conduct peer said d).2 (f (conduct peer said d).1) := by
  induction d generalizing said with
  | done result => rfl
  | ask question next ih => exact ih (peer said question) _

end Dialogue

end Basis
