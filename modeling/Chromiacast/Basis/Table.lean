import Mathlib

/-! Direct-mapped tables: every key has one slot, a slot holds at most one entry,
and an entry is found by comparing the key stored in its slot. `Placed` says
that every entry stands in the slot of its own key; under it a table is
determined by its lookups and the number of entries moves with each write. -/
namespace Basis.Table

variable {α : Type*} {n : Nat} (key : α → Int) (slot : Int → Fin n)

def find (t : Vector (Option α) n) (k : Int) : Option α :=
  (t.get (slot k)).filter (fun a => key a = k)

def Placed (t : Vector (Option α) n) : Prop :=
  ∀ (i : Fin n) (a : α), t.get i = some a → slot (key a) = i

def occupied (t : Vector (Option α) n) : Nat := t.countP Option.isSome

variable {key slot} {t u : Vector (Option α) n}

theorem findSome {k : Int} {a : α} : find key slot t k = some a ↔ t.get (slot k) = some a ∧ key a = k := by
  simp [find]

theorem findEntry (placed : Placed key slot t) {i : Fin n} {a : α} (stored : t.get i = some a) :
    find key slot t (key a) = some a := by
  rw [findSome,placed i a stored]
  exact ⟨stored,rfl⟩

theorem emptyPlaced : Placed key slot (Vector.replicate n none) := by
  intro i a stored
  simp [Vector.get_eq_getElem] at stored

theorem emptyFind (k : Int) : find key slot (Vector.replicate n none) k = none := by
  simp [find,Vector.get_eq_getElem]

theorem emptyOccupied : occupied (Vector.replicate n (none : Option α)) = 0 := by
  simp [occupied]

theorem ext (left : Placed key slot t) (right : Placed key slot u)
    (same : ∀ k, find key slot t k = find key slot u k) : t = u := by
  have sub {t u : Vector (Option α) n} (placed : Placed key slot t)
      (same : ∀ k, find key slot t k = find key slot u k) (i : Fin n) (a : α)
      (stored : t.get i = some a) : u.get i = some a := by
    have found := findEntry placed stored
    rw [same,findSome,placed i a stored] at found
    exact found.1
  apply Vector.ext
  intro i inside
  have forward := sub left same ⟨i,inside⟩
  have backward := sub right (fun k => (same k).symm) ⟨i,inside⟩
  apply Option.ext
  intro a
  exact ⟨forward a,backward a⟩

theorem occupiedBound (t : Vector (Option α) n) : occupied t ≤ n := Vector.countP_le_size

def store (key : α → Int) (slot : Int → Fin n) (t : Vector (Option α) n) (a : α) : Vector (Option α) n :=
  t.set (slot (key a)) (some a)

def erase (slot : Int → Fin n) (t : Vector (Option α) n) (k : Int) : Vector (Option α) n :=
  t.set (slot k) none

theorem storeAt (a : α) (i : Fin n) :
    (store key slot t a).get i = if i = slot (key a) then some a else t.get i := by
  simp only [store,Vector.get_eq_getElem,Vector.getElem_set]
  by_cases same : i = slot (key a)
  · simp [same]
  · have other : ¬ (slot (key a) : Nat) = (i : Nat) := fun h => same (Fin.ext h.symm)
    simp [same,other]

theorem eraseAt (k : Int) (i : Fin n) :
    (erase slot t k).get i = if i = slot k then none else t.get i := by
  simp only [erase,Vector.get_eq_getElem,Vector.getElem_set]
  by_cases same : i = slot k
  · simp [same]
  · have other : ¬ (slot k : Nat) = (i : Nat) := fun h => same (Fin.ext h.symm)
    simp [same,other]

theorem storePlaced (placed : Placed key slot t) (a : α) : Placed key slot (store key slot t a) := by
  intro i b stored
  rw [storeAt] at stored
  split at stored
  · rename_i same
    cases Option.some.inj stored
    exact same.symm
  · exact placed i b stored

theorem erasePlaced (placed : Placed key slot t) (k : Int) : Placed key slot (erase slot t k) := by
  intro i b stored
  rw [eraseAt] at stored
  split at stored
  · contradiction
  · exact placed i b stored

theorem storeOwn (a : α) : find key slot (store key slot t a) (key a) = some a := by
  simp only [find,storeAt,if_true,Option.filter_some,decide_true]

theorem storeFind (a : α) (free : t.get (slot (key a)) = none) (k : Int) :
    find key slot (store key slot t a) k = if k = key a then some a else find key slot t k := by
  by_cases same : k = key a
  · rw [if_pos same,same,storeOwn]
  · by_cases shared : slot k = slot (key a)
    · have other : ¬ key a = k := fun h => same h.symm
      simp [find,storeAt,same,shared,free,other]
    · simp [find,storeAt,same,shared]

theorem eraseFind {k : Int} {a : α} (found : find key slot t k = some a) (j : Int) :
    find key slot (erase slot t k) j = if j = k then none else find key slot t j := by
  by_cases same : j = k
  · simp [find,eraseAt,same]
  · by_cases shared : slot j = slot k
    · have stored := findSome.mp found
      have other : ¬ key a = j := fun h => same (h.symm.trans stored.2)
      simp [find,eraseAt,same,shared,stored.1,Option.filter_some,other]
    · simp [find,eraseAt,same,shared]

theorem storeOccupied (a : α) (free : t.get (slot (key a)) = none) :
    occupied (store key slot t a) = occupied t + 1 := by
  have stored : t[(slot (key a) : Nat)] = none := free
  simp [occupied,store,Vector.countP_set,stored]

theorem eraseOccupied {k : Int} {a : α} (found : find key slot t k = some a) :
    occupied (erase slot t k) + 1 = occupied t := by
  have stored : t[(slot k : Nat)] = some a := (findSome.mp found).1
  have some' : 0 < occupied t := by
    rw [occupied,Vector.countP_pos_iff]
    exact ⟨some a,by rw [← stored]; exact Vector.getElem_mem _,rfl⟩
  simp only [occupied] at some'
  simp only [occupied,erase,Vector.countP_set,stored,Option.isSome_some,Option.isSome_none,if_true]
  simp
  omega

end Basis.Table
