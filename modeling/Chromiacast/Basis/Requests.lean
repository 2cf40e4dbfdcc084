import Mathlib

/-! Requests that wait for a reply, keyed by the id they were sent with. Each has a
one-shot reply channel, named by a number. Removing a request answers it; the
channels of the table and of the answers are always those it started with. The
order of the entries is the order in which the table is iterated. -/
namespace Basis

structure Pending (τ : Type) where
  subject : τ
  responseSender : Nat
  deriving DecidableEq, Repr

abbrev Requests (κ τ : Type) := AList fun _ : κ => Pending τ

namespace Requests
variable {κ τ ρ : Type}

def senders (m : Requests κ τ) : List Nat := m.entries.map fun e => e.2.responseSender

def retain (m : Requests κ τ) (keep : Pending τ → Bool) : Requests κ τ :=
  ⟨m.entries.filter fun e => keep e.2,m.nodupKeys.sublist List.filter_sublist⟩

def matching (m : Requests κ τ) (suits : τ → Bool) : List κ :=
  (m.entries.filter fun e => suits e.2.subject).map Sigma.fst

def sole : List κ → Option κ
  | [id] => some id
  | _ => none

theorem retainSenders (m : Requests κ τ) (keep : Pending τ → Bool) :
    ((m.entries.filter fun e => !keep e.2).map (fun e => e.2.responseSender) ++ (m.retain keep).senders).Perm
      m.senders := by
  have split := List.filter_append_perm (fun e : (_ : κ) × Pending τ => keep e.2) m.entries
  have swapped := (List.perm_append_comm.trans split).map fun e : (_ : κ) × Pending τ => e.2.responseSender
  rw [List.map_append] at swapped
  exact swapped

theorem matchingPerm {m n : Requests κ τ} (same : m.entries.Perm n.entries) (suits : τ → Bool) :
    (m.matching suits).Perm (n.matching suits) := (same.filter _).map _

theorem matchingNodup (m : Requests κ τ) (suits : τ → Bool) : (m.matching suits).Nodup :=
  (m.nodupKeys.sublist List.filter_sublist : (m.entries.filter fun e => suits e.2.subject).NodupKeys)

theorem soleNodup {ids : List κ} (distinct : ids.Nodup) (id : κ) : sole ids = some id ↔ ∀ key, key ∈ ids ↔ key = id := by
  rcases ids with _ | ⟨x,_ | ⟨y,rest⟩⟩
  · simp only [sole,reduceCtorEq,List.not_mem_nil,false_iff,false_iff]
    exact fun every => every id rfl
  · simp only [sole,Option.some.injEq,List.mem_singleton]
    exact ⟨fun same key => by rw [same],fun every => (every x).mp rfl⟩
  · simp only [sole,reduceCtorEq,false_iff]
    intro every
    have first := (every x).mp (by simp)
    have second := (every y).mp (by simp)
    simp [first,second] at distinct

theorem solePerm {a b : List κ} (same : a.Perm b) : sole a = sole b := by
  rcases a with _ | ⟨x,_ | ⟨y,rest⟩⟩
  · rw [List.nil_perm.mp same]
  · rw [List.singleton_perm.mp same]
  · rcases b with _ | ⟨u,_ | ⟨v,others⟩⟩
    · rfl
    · have sizes := same.length_eq
      simp at sizes
    · rfl

variable [DecidableEq κ]

def settle (m : Requests κ τ) (id : κ) (reply : τ → ρ) : Requests κ τ × List (Nat × ρ) :=
  match m.lookup id with
  | none => (m,[])
  | some request => (m.erase id,[(request.responseSender,reply request.subject)])

def settleIf (m : Requests κ τ) (id : κ) (suits : τ → Bool) (reply : τ → ρ) : Requests κ τ × List (Nat × ρ) :=
  if (m.lookup id).any fun request => suits request.subject then m.settle id reply else (m,[])

def settleAll (reply : τ → ρ) : Requests κ τ → List κ → Requests κ τ × List (Nat × ρ)
  | m,[] => (m,[])
  | m,id::ids =>
    let first := m.settle id reply
    let rest := settleAll reply first.1 ids
    (rest.1,first.2 ++ rest.2)

theorem memMatching {m : Requests κ τ} {suits : τ → Bool} {key : κ} :
    key ∈ m.matching suits ↔ ∃ request, m.lookup key = some request ∧ suits request.subject := by
  simp only [matching,List.mem_map,List.mem_filter]
  constructor
  · rintro ⟨⟨id,request⟩,⟨member,suited⟩,rfl⟩
    exact ⟨request,AList.mem_lookup_iff.mpr member,suited⟩
  · rintro ⟨request,found,suited⟩
    exact ⟨⟨key,request⟩,⟨AList.mem_lookup_iff.mp found,suited⟩,rfl⟩

theorem soleMatching {m : Requests κ τ} {suits : τ → Bool} {id : κ} :
    sole (m.matching suits) = some id ↔
      ∀ key, (∃ request, m.lookup key = some request ∧ suits request.subject) ↔ key = id := by
  simp only [soleNodup (matchingNodup m suits),memMatching]

theorem settleMissing {m : Requests κ τ} {id : κ} (missing : m.lookup id = none) (reply : τ → ρ) :
    m.settle id reply = (m,[]) := by
  simp only [settle,missing]

theorem settleFound {m : Requests κ τ} {id : κ} {request : Pending τ} (found : m.lookup id = some request)
    (reply : τ → ρ) :
    m.settle id reply = (m.erase id,[(request.responseSender,reply request.subject)]) := by
  simp only [settle,found]

theorem eraseEntries {m : Requests κ τ} {id : κ} {request : Pending τ} (found : m.lookup id = some request) :
    m.entries.Perm (⟨id,request⟩::(m.erase id).entries) := by
  have present : id ∈ m.entries.keys := AList.lookup_isSome.mp (by rw [found]; rfl)
  obtain ⟨other,before,after,absent,whole,rest⟩ := List.exists_of_kerase present
  have same : m.lookup id = some other := by
    rw [AList.lookup,whole,List.dlookup_append,List.dlookup_eq_none.mpr absent]
    simp
  cases Option.some.inj (found.symm.trans same)
  rw [show (m.erase id).entries = m.entries.kerase id from rfl,rest,whole]
  exact List.perm_middle

theorem settleSenders (m : Requests κ τ) (id : κ) (reply : τ → ρ) :
    ((m.settle id reply).2.map Prod.fst ++ (m.settle id reply).1.senders).Perm m.senders := by
  unfold settle
  split
  · rfl
  · rename_i request found
    exact ((eraseEntries found).map fun e : (_ : κ) × Pending τ => e.2.responseSender).symm

theorem settleAllSenders (m : Requests κ τ) (ids : List κ) (reply : τ → ρ) :
    ((settleAll reply m ids).2.map Prod.fst ++ (settleAll reply m ids).1.senders).Perm m.senders := by
  induction ids generalizing m with
  | nil => rfl
  | cons id ids ih =>
    simp only [settleAll,List.map_append,List.append_assoc]
    exact ((ih _).append_left _).trans (settleSenders m id reply)

theorem settleLookup (m : Requests κ τ) (id key : κ) (reply : τ → ρ) :
    (m.settle id reply).1.lookup key = if key = id then none else m.lookup key := by
  unfold settle
  split
  · rename_i missing
    split
    · rename_i same
      rw [same,missing]
    · rfl
  · split
    · rename_i same
      rw [same,AList.lookup_erase]
    · rename_i other
      exact AList.lookup_erase_ne other

def Removes (m n : Requests κ τ) (removed : Option κ) : Prop :=
  ∀ key, n.lookup key = if removed = some key then none else m.lookup key

theorem removesNone (m : Requests κ τ) : Removes m m none := fun key => by simp

theorem settleRemoves (m : Requests κ τ) (id : κ) (reply : τ → ρ) : Removes m (m.settle id reply).1 (some id) := by
  intro key
  rw [settleLookup]
  simp only [Option.some.injEq,eq_comm]

theorem settleIfRemoves (m : Requests κ τ) (id : κ) (suits : τ → Bool) (reply : τ → ρ) :
    ∃ removed, Removes m (m.settleIf id suits reply).1 removed ∧
      ∀ key, removed = some key ↔ id = key ∧ ∃ request, m.lookup key = some request ∧ suits request.subject := by
  unfold settleIf
  split
  · rename_i present
    obtain ⟨request,found,suited⟩ := (Option.any_eq_true _ _).mp present
    refine ⟨some id,settleRemoves m id reply,fun key => ?_⟩
    constructor
    · intro same
      cases Option.some.inj same
      exact ⟨rfl,request,found,suited⟩
    · rintro ⟨rfl,_⟩
      rfl
  · rename_i absent
    refine ⟨none,removesNone m,fun key => ⟨fun same => (by cases same),?_⟩⟩
    rintro ⟨rfl,request,found,suited⟩
    exact absurd ((Option.any_eq_true _ _).mpr ⟨request,found,suited⟩) absent

theorem settleIfSenders (m : Requests κ τ) (id : κ) (suits : τ → Bool) (reply : τ → ρ) :
    ((m.settleIf id suits reply).2.map Prod.fst ++ (m.settleIf id suits reply).1.senders).Perm m.senders := by
  unfold settleIf
  split
  · exact settleSenders m id reply
  · exact List.Perm.refl _

theorem settleAllLookup (m : Requests κ τ) (ids : List κ) (key : κ) (reply : τ → ρ) :
    (settleAll reply m ids).1.lookup key = if key ∈ ids then none else m.lookup key := by
  induction ids generalizing m with
  | nil => rfl
  | cons id ids ih =>
    simp only [settleAll,ih,settleLookup,List.mem_cons]
    by_cases later : key ∈ ids <;> by_cases first : key = id <;> simp [later,first]

theorem settleAllAnswers {m : Requests κ τ} {ids : List κ} {id : κ} {request : Pending τ} (listed : id ∈ ids)
    (found : m.lookup id = some request) (reply : τ → ρ) :
    (request.responseSender,reply request.subject) ∈ (settleAll reply m ids).2 := by
  induction ids generalizing m with
  | nil => cases listed
  | cons first ids ih =>
    simp only [settleAll,List.mem_append]
    by_cases same : id = first
    · subst same
      exact .inl (by simp [settleFound found])
    · have later : id ∈ ids := (List.mem_cons.mp listed).resolve_left same
      have kept : (m.settle first reply).1.lookup id = some request := by
        rw [settleLookup,if_neg same]
        exact found
      exact .inr (ih later kept)

structure Settled (m : Requests κ τ) (suits : κ → τ → ρ → Prop) (result : Requests κ τ × List (Nat × ρ)) : Prop where
  kept : ∀ key request, result.1.lookup key = some request → m.lookup key = some request
  answers : ∀ sender reply, (sender,reply) ∈ result.2 →
    ∃ key subject, m.lookup key = some ⟨subject,sender⟩ ∧ suits key subject reply

section Settled
variable {m : Requests κ τ} {suits : κ → τ → ρ → Prop} {reply : τ → ρ}

theorem retainLookup {keep : Pending τ → Bool} {key : κ} {request : Pending τ}
    (found : (m.retain keep).lookup key = some request) : m.lookup key = some request := by
  have member : ⟨key,request⟩ ∈ (m.retain keep).entries := AList.mem_lookup_iff.mp found
  exact AList.mem_lookup_iff.mpr (List.mem_filter.mp member).1

theorem settledNone : Settled m suits (m,[]) := ⟨fun _ _ found => found,fun _ _ member => (by cases member)⟩

theorem settleSettled {id : κ} (suited : ∀ request, m.lookup id = some request → suits id request.subject (reply request.subject)) :
    Settled m suits (m.settle id reply) := by
  refine ⟨fun key request found => ?_,fun sender given member => ?_⟩
  · rw [settleLookup] at found
    split_ifs at found
    exact found
  · cases present : m.lookup id with
    | none =>
      rw [settleMissing present] at member
      cases member
    | some request =>
      rw [settleFound present] at member
      cases List.mem_singleton.mp member
      exact ⟨id,request.subject,present,suited request present⟩

theorem settleIfSettled {id : κ} {asked : τ → Bool} (suited : ∀ subject, asked subject → suits id subject (reply subject)) :
    Settled m suits (m.settleIf id asked reply) := by
  unfold settleIf
  split
  · rename_i present
    obtain ⟨request,found,fits⟩ := (Option.any_eq_true _ _).mp present
    refine settleSettled fun other same => ?_
    cases Option.some.inj (found.symm.trans same)
    exact suited request.subject fits
  · exact settledNone

theorem settleAllSettled {ids : List κ}
    (suited : ∀ id ∈ ids, ∀ request, m.lookup id = some request → suits id request.subject (reply request.subject)) :
    Settled m suits (settleAll reply m ids) := by
  induction ids generalizing m with
  | nil => exact settledNone
  | cons id ids ih =>
    have first : Settled m suits (m.settle id reply) := settleSettled (suited id List.mem_cons_self)
    have rest : Settled (m.settle id reply).1 suits (settleAll reply (m.settle id reply).1 ids) :=
      ih fun other member request found => suited other (List.mem_cons_of_mem _ member) request (first.kept other request found)
    refine ⟨fun key request found => first.kept key request (rest.kept key request found),fun sender given member => ?_⟩
    rcases List.mem_append.mp member with now | later
    · exact first.answers sender given now
    · obtain ⟨key,subject,found,fits⟩ := rest.answers sender given later
      exact ⟨key,subject,first.kept key _ found,fits⟩

end Settled

section Order
variable {m n : Requests κ τ}

theorem settlePerm (same : m.entries.Perm n.entries) (id : κ) (reply : τ → ρ) :
    (m.settle id reply).1.entries.Perm (n.settle id reply).1.entries ∧ (m.settle id reply).2 = (n.settle id reply).2 := by
  have found : m.lookup id = n.lookup id := AList.perm_lookup same
  unfold settle
  rw [found]
  split
  · exact ⟨same,rfl⟩
  · exact ⟨AList.perm_erase same,rfl⟩

theorem settleIfPerm (same : m.entries.Perm n.entries) (id : κ) (suits : τ → Bool) (reply : τ → ρ) :
    (m.settleIf id suits reply).1.entries.Perm (n.settleIf id suits reply).1.entries ∧
      (m.settleIf id suits reply).2 = (n.settleIf id suits reply).2 := by
  have found : m.lookup id = n.lookup id := AList.perm_lookup same
  unfold settleIf
  rw [found]
  split
  · exact settlePerm same id reply
  · exact ⟨same,rfl⟩

theorem settleAllSame (same : m.entries.Perm n.entries) (ids : List κ) (reply : τ → ρ) :
    (settleAll reply m ids).1.entries.Perm (settleAll reply n ids).1.entries ∧
      (settleAll reply m ids).2 = (settleAll reply n ids).2 := by
  induction ids generalizing m n with
  | nil => exact ⟨same,rfl⟩
  | cons id ids ih =>
    obtain ⟨maps,answers⟩ := settlePerm same id reply
    obtain ⟨rest,later⟩ := ih maps
    exact ⟨rest,by simp only [settleAll,answers,later]⟩

theorem settleSwap (m : Requests κ τ) (first second : κ) (reply : τ → ρ) :
    ((m.settle first reply).1.settle second reply).1 = ((m.settle second reply).1.settle first reply).1 ∧
      ((m.settle first reply).2 ++ ((m.settle first reply).1.settle second reply).2).Perm
        ((m.settle second reply).2 ++ ((m.settle second reply).1.settle first reply).2) := by
  by_cases same : first = second
  · subst same
    exact ⟨rfl,List.Perm.refl _⟩
  · have after : (m.settle first reply).1.lookup second = m.lookup second := by
      rw [settleLookup,if_neg (Ne.symm same)]
    have before : (m.settle second reply).1.lookup first = m.lookup first := by
      rw [settleLookup,if_neg same]
    cases one : m.lookup first with
    | none => simp [settleMissing one,settleMissing (before.trans one)]
    | some a =>
      cases two : m.lookup second with
      | none => simp [settleMissing two,settleMissing (after.trans two)]
      | some b =>
        rw [settleFound (after.trans two),settleFound (before.trans one),settleFound one,settleFound two]
        exact ⟨AList.erase_erase _ _ _,List.Perm.swap _ _ _⟩

theorem settleAllPerm {ids others : List κ} (listed : ids.Perm others) (same : m.entries.Perm n.entries)
    (reply : τ → ρ) :
    (settleAll reply m ids).1.entries.Perm (settleAll reply n others).1.entries ∧
      (settleAll reply m ids).2.Perm (settleAll reply n others).2 := by
  induction listed generalizing m n with
  | nil => exact ⟨same,List.Perm.refl _⟩
  | cons id _ ih =>
    obtain ⟨maps,answers⟩ := settlePerm same id reply
    obtain ⟨rest,later⟩ := ih maps
    exact ⟨rest,by simp only [settleAll,answers]; exact later.append_left _⟩
  | swap second first ids =>
    -- the two orders of one table meet, and from there the tables differ in order only
    obtain ⟨meet,answers⟩ := settleSwap m first second reply
    obtain ⟨one,oneAnswers⟩ := settlePerm same second reply
    obtain ⟨two,twoAnswers⟩ := settlePerm one first reply
    obtain ⟨rest,later⟩ := settleAllSame two ids reply
    simp only [settleAll,meet]
    refine ⟨rest,?_⟩
    rw [← List.append_assoc,← List.append_assoc,later,← oneAnswers,← twoAnswers]
    exact answers.append_right _
  | trans _ _ left right =>
    obtain ⟨maps,answers⟩ := left (List.Perm.refl m.entries)
    obtain ⟨maps',answers'⟩ := right same
    exact ⟨maps.trans maps',answers.trans answers'⟩

end Order

end Requests

end Basis
