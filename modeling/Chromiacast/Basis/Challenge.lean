import Mathlib

/-! Agreement by challenge and answer. A verifier draws a nonce for each session and accepts
a key for it; the holder of a key signs the nonce it is asked and the context it is in. If no
signature of an honest key is forged and no nonce is drawn that was answered before, an accepted
session has an answer made in the same context since the session was opened. -/
namespace Basis.Challenge

variable {Key Nonce Context Message : Type}

structure Answer (Key Nonce Context : Type) where
  key : Key
  nonce : Nonce
  context : Context

/- `opened` counts the answers made before. -/
structure Session (Key Nonce Context : Type) where
  nonce : Nonce
  context : Context
  opened : Nat
  accepted : Option Key

structure State (Key Nonce Context : Type) where
  sessions : List (Session Key Nonce Context)
  answers : List (Answer Key Nonce Context)

inductive Step (honest : Key → Prop) (message : Nonce → Context → Message) (s : State Key Nonce Context) :
    State Key Nonce Context → Prop where
  | opens (nonce : Nonce) (context : Context) (unasked : ∀ answer ∈ s.answers, answer.nonce ≠ nonce) :
      Step honest message s {s with sessions := s.sessions ++ [⟨nonce,context,s.answers.length,none⟩]}
  | answers (answer : Answer Key Nonce Context) :
      Step honest message s {s with answers := s.answers ++ [answer]}
  | accepts (i : Nat) (session : Session Key Nonce Context) (key : Key) (at' : s.sessions[i]? = some session)
      (signed : honest key → ∃ answer ∈ s.answers, answer.key = key ∧
        message answer.nonce answer.context = message session.nonce session.context) :
      Step honest message s {s with sessions := s.sessions.set i {session with accepted := some key}}

structure Sound (honest : Key → Prop) (s : State Key Nonce Context) : Prop where
  past : ∀ session ∈ s.sessions, session.opened ≤ s.answers.length
  recent : ∀ session ∈ s.sessions, ∀ (j : Nat) (answer : Answer Key Nonce Context),
    s.answers[j]? = some answer → answer.nonce = session.nonce → session.opened ≤ j
  agreed : ∀ session ∈ s.sessions, ∀ key, session.accepted = some key → honest key →
    ∃ answer ∈ s.answers, answer.key = key ∧ answer.nonce = session.nonce ∧ answer.context = session.context

theorem emptySound (honest : Key → Prop) : Sound honest (⟨[],[]⟩ : State Key Nonce Context) :=
  ⟨by simp,by simp,by simp⟩

section
variable {honest : Key → Prop} {message : Nonce → Context → Message} {s t : State Key Nonce Context}

theorem Sound.opens (sound : Sound honest s) {nonce : Nonce} (context : Context)
    (unasked : ∀ answer ∈ s.answers, answer.nonce ≠ nonce) :
    Sound honest {s with sessions := s.sessions ++ [⟨nonce,context,s.answers.length,none⟩]} where
  past := by
    intro session member
    rcases List.mem_append.mp member with before | now
    · exact sound.past session before
    · cases List.mem_singleton.mp now
      exact le_refl _
  recent := by
    intro session member j answer at' same
    rcases List.mem_append.mp member with before | now
    · exact sound.recent session before j answer at' same
    · cases List.mem_singleton.mp now
      exact absurd same (unasked answer (List.mem_of_getElem? at'))
  agreed := by
    intro session member key accepted
    rcases List.mem_append.mp member with before | now
    · exact sound.agreed session before key accepted
    · cases List.mem_singleton.mp now
      simp at accepted

theorem Sound.answers (sound : Sound honest s) (answer : Answer Key Nonce Context) :
    Sound honest {s with answers := s.answers ++ [answer]} where
  past := by
    intro session member
    rw [List.length_append]
    exact (sound.past session member).trans (Nat.le_add_right _ _)
  recent := by
    intro session member j other at' same
    have past := sound.past session member
    by_cases before : j < s.answers.length
    · exact sound.recent session member j other (by rwa [List.getElem?_append_left before] at at') same
    · omega
  agreed := by
    intro session member key accepted honestly
    obtain ⟨other,inside,same⟩ := sound.agreed session member key accepted honestly
    exact ⟨other,List.mem_append_left _ inside,same⟩

theorem Sound.accepts (sound : Sound honest s) (binding : Function.Injective2 message) {i : Nat}
    {session : Session Key Nonce Context} {key : Key} (at' : s.sessions[i]? = some session)
    (signed : honest key → ∃ answer ∈ s.answers, answer.key = key ∧
      message answer.nonce answer.context = message session.nonce session.context) :
    Sound honest {s with sessions := s.sessions.set i {session with accepted := some key}} := by
  have here := List.mem_of_getElem? at'
  refine ⟨?_,?_,?_⟩
  · intro other member
    rcases List.mem_or_eq_of_mem_set member with before | rfl
    · exact sound.past other before
    · exact sound.past session here
  · intro other member
    rcases List.mem_or_eq_of_mem_set member with before | rfl
    · exact sound.recent other before
    · exact sound.recent session here
  · intro other member key' accepted honestly
    rcases List.mem_or_eq_of_mem_set member with before | rfl
    · exact sound.agreed other before key' accepted honestly
    · cases Option.some.inj accepted
      obtain ⟨answer,inside,owner,same⟩ := signed honestly
      obtain ⟨nonce,context⟩ := binding same
      exact ⟨answer,inside,owner,nonce,context⟩

theorem Sound.step (sound : Sound honest s) (binding : Function.Injective2 message) (step : Step honest message s t) :
    Sound honest t := by
  cases step with
  | opens nonce context unasked => exact sound.opens context unasked
  | answers answer => exact sound.answers answer
  | accepts i session key at' signed => exact sound.accepts binding at' signed

theorem Sound.answered (sound : Sound honest s) {session : Session Key Nonce Context} (member : session ∈ s.sessions)
    {key : Key} (accepted : session.accepted = some key) (honestly : honest key) :
    ∃ j answer, session.opened ≤ j ∧ s.answers[j]? = some answer ∧ answer.key = key ∧
      answer.nonce = session.nonce ∧ answer.context = session.context := by
  obtain ⟨answer,inside,owner,nonce,context⟩ := sound.agreed session member key accepted honestly
  obtain ⟨j,at'⟩ := List.getElem?_of_mem inside
  exact ⟨j,answer,sound.recent session member j answer at' nonce,at',owner,nonce,context⟩

end

end Basis.Challenge
