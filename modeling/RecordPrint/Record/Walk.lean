import RecordPrint.Value

/-!
# Walks through objects

A walk through the objects of a store keeps the places of the objects that it is inside of. It ends,
because each object it enters is one more of these. With or without a fault, it leaves every object it
has entered.
-/

namespace RecordPrint

/-- The number of objects that a walk is not inside of. -/
def unopened (σ : Store) (opened : List Nat) : Nat :=
  ((List.range σ.size).filter fun place => !opened.contains place).length

theorem unopened_cons_lt {σ : Store} {opened : List Nat} {place : Nat} (inside : place < σ.size)
    (new : place ∉ opened) : unopened σ (place :: opened) < unopened σ opened := by
  have split : ((List.range σ.size).filter fun p => !(place :: opened).contains p) =
      (((List.range σ.size).filter fun p => !opened.contains p).filter fun p => p != place) := by
    rw [List.filter_filter]
    refine List.filter_congr fun p _ => ?_
    by_cases h : p = place <;> simp [h]
  unfold unopened
  rw [split]
  refine List.length_filter_lt_length_iff_exists.2 ⟨place, ?_, by simp⟩
  simp [inside, new]

/-- An entry with its value replaced by what a function makes of it. -/
def mapEntry {α β : Type} (f : α → Except Fault β) (e : Except Fault (Text × α)) :
    Except Fault (Text × β) :=
  e.bind fun p => (f p.2).map (p.1, ·)

/-- What a walk comes to that starts inside of the objects at the places `active`: its outcome, and the
places of the objects that it is inside of at its end. -/
structure Walk (active : List Nat) (α : Type) where
  outcome : Except Fault α
  inside : List Nat
  inside_eq : inside = active

namespace Walk

variable {α β : Type} {active : List Nat}

/-- A walk that enters nothing. -/
def still (active : List Nat) (outcome : Except Fault α) : Walk active α := ⟨outcome, active, rfl⟩

/-- A walk with another result. -/
def map (f : α → β) (w : Walk active α) : Walk active β := ⟨w.outcome.map f, w.inside, w.inside_eq⟩

/-- A walk that enters the object at a place, goes on from there, and leaves the object again. -/
def enter (place : Nat) (w : Walk (place :: active) α) : Walk active α :=
  ⟨w.outcome, w.inside.erase place, by rw [w.inside_eq, List.erase_cons_head]⟩

/-- Walks from each of some items, each one from where the one before has ended, up to the first fault. -/
def each (f : (s : List Nat) → s = active → α → Walk s β) :
    List α → (s : List Nat) → s = active → Walk s (List β)
  | [], s, _ => still s (.ok [])
  | a :: as, s, same =>
    let first := f s same a
    match first.outcome with
    | .error fault => ⟨.error fault, first.inside, first.inside_eq⟩
    | .ok b =>
      let rest := each f as first.inside (first.inside_eq.trans same)
      ⟨rest.outcome.map (b :: ·), rest.inside, rest.inside_eq.trans first.inside_eq⟩

/-- A walk from the value of an entry, which may be unreadable. -/
def entry (f : α → Walk active β) : Except Fault (Text × α) → Walk active (Text × β)
  | .error fault => still active (.error fault)
  | .ok (name, a) => (f a).map (name, ·)

end Walk

end RecordPrint
