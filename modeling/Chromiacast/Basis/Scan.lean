import Chromiacast.Basis.Outcome

/-! Readers that move a position over their input. A loop that reads one item
after another to the end accepts exactly the strings that are items laid side by
side. -/
namespace Basis

structure Spans {α : Type} (data : List α) (first : Nat) (raw : List α) (last : Nat) : Prop where
  here : raw <+: data.drop first
  ends : last = first+raw.length

namespace Spans
variable {α : Type} {data a b : List α} {i j k : Nat}

theorem nil (data : List α) (i : Nat) : Spans data i [] i := ⟨List.nil_prefix,rfl⟩

theorem appendIff : Spans data i (a ++ b) k ↔ ∃ j, Spans data i a j ∧ Spans data j b k := by
  constructor
  · rintro ⟨⟨rest,here⟩,ends⟩
    refine ⟨i+a.length,⟨⟨b ++ rest,by rw [← here,List.append_assoc]⟩,rfl⟩,⟨rest,?_⟩,?_⟩
    · rw [← List.drop_drop,← here,List.append_assoc,List.drop_left]
    · rw [ends,List.length_append,Nat.add_assoc]
  · rintro ⟨j,⟨⟨rest,here⟩,ends⟩,⟨⟨tail,there⟩,close⟩⟩
    refine ⟨⟨tail,?_⟩,?_⟩
    · have after : data.drop j = rest := by rw [ends,← List.drop_drop,← here,List.drop_left]
      rw [List.append_assoc,there,after,here]
    · rw [close,ends,List.length_append,Nat.add_assoc]

theorem inside (spans : Spans data i a k) (start : i ≤ data.length) : k ≤ data.length := by
  have fits := spans.here.length_le
  have ends := spans.ends
  rw [List.length_drop] at fits
  omega

theorem bounded (spans : Spans data i a k) (some : 0 < a.length) : k ≤ data.length := by
  have fits := spans.here.length_le
  have ends := spans.ends
  rw [List.length_drop] at fits
  omega

theorem slice (fits : i+k ≤ data.length) : Spans data i ((data.drop i).take k) (i+k) :=
  ⟨List.take_prefix _ _,by rw [List.length_take,List.length_drop]; omega⟩

theorem sliceUnique (spans : Spans data i a j) : a = (data.drop i).take a.length :=
  List.prefix_iff_eq_take.mp spans.here

end Spans

section Scan
variable {ε σ : Type}

/- Read while input is left. Every round moves on, so as many rounds as bytes are enough;
running out of them counts as leaving the input. -/
def scan (length : Nat) (step : Nat → σ → Outcome ε (σ × Nat)) : Nat → Nat → σ → Outcome ε σ
  | fuel,pos,s =>
    if pos < length then
      match fuel with
      | 0 => .panic
      | fuel+1 => step pos s >>= fun r => scan length step fuel r.2 r.1
    else .ok s

variable {α ι : Type} {data : List α} {Wire : ι → List α → Prop} {apply : σ → ι → Option σ}
  {step : Nat → σ → Outcome ε (σ × Nat)}

def Laid (data : List α) (Wire : ι → List α → Prop) (apply : σ → ι → Option σ) (pos : Nat) (s t : σ) : Prop :=
  ∃ (items : List ι) (wires : List (List α)), List.Forall₂ Wire items wires ∧
    Spans data pos wires.flatten data.length ∧ items.foldlM apply s = some t

theorem laidEnd (nonempty : ∀ item raw, Wire item raw → 0 < raw.length) (s t : σ) :
    t = s ↔ Laid data Wire apply data.length s t := by
  constructor
  · rintro rfl
    exact ⟨[],[],List.Forall₂.nil,Spans.nil _ _,rfl⟩
  · rintro ⟨items,wires,formed,spans,folded⟩
    cases formed with
    | nil => exact (Option.some.inj folded).symm
    | cons wire rest =>
      have some' := nonempty _ _ wire
      have ends := spans.ends
      simp only [List.flatten_cons,List.length_append] at ends
      omega

theorem laidNext {pos : Nat} (before : pos < data.length) (s t : σ) :
    (∃ r : σ × Nat, (∃ item raw, Wire item raw ∧ Spans data pos raw r.2 ∧ apply s item = some r.1) ∧
      Laid data Wire apply r.2 r.1 t) ↔ Laid data Wire apply pos s t := by
  constructor
  · rintro ⟨r,⟨item,raw,wire,spans,applied⟩,items,wires,formed,rest,folded⟩
    refine ⟨item::items,raw::wires,List.Forall₂.cons wire formed,?_,?_⟩
    · rw [List.flatten_cons]
      exact Spans.appendIff.mpr ⟨_,spans,rest⟩
    · simpa [List.foldlM_cons,applied] using folded
  · rintro ⟨items,wires,formed,spans,folded⟩
    cases formed with
    | nil =>
      have ends := spans.ends
      simp only [List.flatten_nil,List.length_nil] at ends
      omega
    | cons wire formed =>
      rw [List.flatten_cons] at spans
      obtain ⟨next,first,rest⟩ := Spans.appendIff.mp spans
      simp only [List.foldlM_cons,Option.bind_eq_bind,Option.bind_eq_some_iff] at folded
      obtain ⟨u,applied,folded⟩ := folded
      exact ⟨(u,next),⟨_,_,wire,first,applied⟩,_,_,formed,rest,folded⟩

theorem scanRecognises (nonempty : ∀ item raw, Wire item raw → 0 < raw.length)
    (reads : ∀ pos s, pos < data.length → (step pos s).Recognises fun r =>
      ∃ item raw, Wire item raw ∧ Spans data pos raw r.2 ∧ apply s item = some r.1)
    {fuel pos : Nat} (inside : pos ≤ data.length) (enough : data.length ≤ pos+fuel) (s : σ) :
    (scan data.length step fuel pos s).Recognises (Laid data Wire apply pos s) := by
  induction fuel generalizing pos s with
  | zero =>
    have atEnd : pos = data.length := by omega
    subst atEnd
    simp only [scan,lt_irrefl,if_false]
    exact (Outcome.Recognises.ok s).congr fun t => laidEnd nonempty s t
  | succ fuel ih =>
    unfold scan
    split
    · rename_i before
      have next := (reads pos s before).bind (f := fun r => scan data.length step fuel r.2 r.1)
        (S := fun r => Laid data Wire apply r.2 r.1) (by
          rintro r ⟨item,raw,wire,spans,applied⟩
          have some' := nonempty item raw wire
          have ends := spans.ends
          exact ih (spans.inside inside) (by omega) r.1)
      exact next.congr fun t => laidNext before s t
    · have atEnd : pos = data.length := by omega
      subst atEnd
      exact (Outcome.Recognises.ok s).congr fun t => laidEnd nonempty s t

end Scan

section Walk
variable {ε σ α ι : Type}

def walk (step : List α → σ → Outcome ε (σ × List α)) : Nat → List α → σ → Outcome ε σ
  | fuel,data,s =>
    if data.isEmpty then .ok s else
      match fuel with
      | 0 => .panic
      | fuel+1 => step data s >>= fun r => walk step fuel r.2 r.1

def Leaves (data raw rest : List α) : Prop := data = raw ++ rest

theorem leavesAppend {data a b rest : List α} : Leaves data (a ++ b) rest ↔ ∃ mid, Leaves data a mid ∧ Leaves mid b rest := by
  simp [Leaves,List.append_assoc]

variable {Wire : ι → List α → Prop} {apply : σ → ι → Option σ} {step : List α → σ → Outcome ε (σ × List α)}

def Composed (data : List α) (Wire : ι → List α → Prop) (apply : σ → ι → Option σ) (s t : σ) : Prop :=
  ∃ (items : List ι) (wires : List (List α)), List.Forall₂ Wire items wires ∧ data = wires.flatten ∧
    items.foldlM apply s = some t

theorem composedEnd (nonempty : ∀ item raw, Wire item raw → 0 < raw.length) (s t : σ) :
    t = s ↔ Composed [] Wire apply s t := by
  constructor
  · rintro rfl
    exact ⟨[],[],List.Forall₂.nil,rfl,rfl⟩
  · rintro ⟨items,wires,formed,whole,folded⟩
    cases formed with
    | nil => exact (Option.some.inj folded).symm
    | cons wire rest =>
      have some' := nonempty _ _ wire
      have sized := congrArg List.length whole
      simp only [List.flatten_cons,List.length_append,List.length_nil] at sized
      omega

theorem composedNext {data : List α} (some' : data ≠ []) (s t : σ) :
    (∃ r : σ × List α, (∃ item raw, Wire item raw ∧ Leaves data raw r.2 ∧ apply s item = some r.1) ∧
      Composed r.2 Wire apply r.1 t) ↔ Composed data Wire apply s t := by
  constructor
  · rintro ⟨⟨u,rest⟩,⟨item,raw,wire,rfl,applied⟩,items,wires,formed,rfl,folded⟩
    exact ⟨item::items,raw::wires,List.Forall₂.cons wire formed,rfl,by simpa [List.foldlM_cons,applied] using folded⟩
  · rintro ⟨items,wires,formed,rfl,folded⟩
    cases formed with
    | nil => exact absurd rfl some'
    | cons wire formed =>
      simp only [List.foldlM_cons,Option.bind_eq_bind,Option.bind_eq_some_iff] at folded
      obtain ⟨u,applied,folded⟩ := folded
      exact ⟨(u,_),⟨_,_,wire,rfl,applied⟩,_,_,formed,rfl,folded⟩

theorem walkRecognises (nonempty : ∀ item raw, Wire item raw → 0 < raw.length)
    (reads : ∀ data s, (step data s).Recognises fun r =>
      ∃ item raw, Wire item raw ∧ Leaves data raw r.2 ∧ apply s item = some r.1)
    {fuel : Nat} {data : List α} (enough : data.length ≤ fuel) (s : σ) :
    (walk step fuel data s).Recognises (Composed data Wire apply s) := by
  induction fuel generalizing data s with
  | zero =>
    have empty : data = [] := List.length_eq_zero_iff.mp (by omega)
    subst empty
    exact (Outcome.Recognises.ok s).congr fun t => composedEnd nonempty s t
  | succ fuel ih =>
    unfold walk
    split
    · rename_i empty
      cases List.isEmpty_iff.mp empty
      exact (Outcome.Recognises.ok s).congr fun t => composedEnd nonempty s t
    · rename_i some'
      have next := (reads data s).bind (f := fun r => walk step fuel r.2 r.1)
        (S := fun r => Composed r.2 Wire apply r.1) (by
          rintro ⟨u,rest⟩ ⟨item,raw,wire,rfl,applied⟩
          have positive := nonempty item raw wire
          rw [List.length_append] at enough
          exact ih (by omega) u)
      exact next.congr fun t => composedNext (fun empty => some' (List.isEmpty_iff.mpr empty)) s t

end Walk

end Basis
