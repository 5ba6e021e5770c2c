import RecordPrint.Record.Normal
import Mathlib.Logic.Relation

/-!
# The graph of a store

* `Value.Edge` — one value leads to another in one step of unfolding; `Value.Cyclic` — a tracked value that is
  reachable is reachable from itself;
* `Value.Unfolds` — a tree is the unfolding of a value, whatever is being unfolded around it;
* `Unfolds.not_cyclic` — a cyclic value has no unfolding.
-/

namespace RecordPrint

open Relation (ReflTransGen TransGen)

/-- A step of unfolding leads to a value. -/
def Unfolding.LeadsTo : Unfolding → Value → Prop
  | .entries es, w => ∃ name, .ok (name, w) ∈ es
  | .items vs, w => w ∈ vs
  | .standIn v, w => w = v
  | .cells _, _ => False
  | .atomic, _ => False

namespace Value

/-- Whether a value is one of those that are kept track of while they are unfolded. -/
def isTracked : Value → Bool
  | ref _ | member _ _ _ _ | timestamp _ | date _ | clock _ | path _ | scalar _ | refined _ _ _ => false
  | _ => true

section Graph

variable (σ : Store) (schema : Schema)

/-- A value leads to another: a reference to its target, a member to its value, an object to the parts that it
unfolds to. -/
inductive Edge : Value → Value → Prop where
  | target (w : Value) : Edge (.ref w) w
  | content (shape name : Text) (mixin : Mixin) (w : Value) : Edge (.member shape name mixin w) w
  | part {place : Nat} {u : Unfolding} {w : Value} (inside : place < σ.size) :
    (object place).unfold σ schema σ[place] = .ok u → u.LeadsTo w → Edge (.object place) w

/-- A value leads to another in any number of steps. -/
def Reaches : Value → Value → Prop := ReflTransGen (Edge σ schema)

/-- A tracked value that is reachable leads back to itself. -/
def Cyclic (v : Value) : Prop := ∃ w, Reaches σ schema v w ∧ w.isTracked ∧ TransGen (Edge σ schema) w w

/-- A tree is the unfolding of a value. -/
inductive Unfolds : Value → Tree Value → Prop where
  | target {w : Value} {t : Tree Value} : Unfolds w t → Unfolds (.ref w) t
  | content {shape name : Text} {mixin : Mixin} {w : Value} {t : Tree Value} :
    Unfolds w t → Unfolds (.member shape name mixin w) t
  | timestamp {d : Timestamp} {s : Text} : d.iso (.char 'T') = .ok s → Unfolds (.timestamp d) (.leaf (text s))
  | date (d : Date) : Unfolds (.date d) (.leaf (text d.iso))
  | clock {c : ZonedClock} {s : Text} : c.iso = .ok s → Unfolds (.clock c) (.leaf (text s))
  | path (p : Path) : Unfolds (.path p) (.leaf (text p.text))
  | scalar (s : Scalar) : Unfolds (.scalar s) (.leaf (.scalar s))
  | refined (s : Scalar) (shown : Text) (form : Option (Except Fault Text)) :
    Unfolds (.refined s shown form) (.leaf (.refined s shown form))
  | shape (name type : Text) : Unfolds (.shape name type) (.leaf (.shape name type))
  | missing : Unfolds .missing (.leaf .missing)
  | foreign (type : Text) : Unfolds (.foreign type) (.leaf (.foreign type))
  | nowhere {place : Nat} : ¬ place < σ.size → Unfolds (.object place) (.leaf (.object place))
  | atomic {place : Nat} (inside : place < σ.size) :
    (object place).unfold σ schema σ[place] = .ok .atomic → Unfolds (.object place) (.leaf (.object place))
  | cells {place : Nat} {cs : List (Text × Value)} (inside : place < σ.size) :
    (object place).unfold σ schema σ[place] = .ok (.cells cs) →
    Unfolds (.object place) (.object (putEntries [] (cs.map fun c => (c.1, .leaf c.2))))
  | standIn {place : Nat} {w : Value} {t : Tree Value} (inside : place < σ.size) :
    (object place).unfold σ schema σ[place] = .ok (.standIn w) → Unfolds w t → Unfolds (.object place) t
  | items {place : Nat} {vs : List Value} {ts : List (Tree Value)} (inside : place < σ.size) :
    (object place).unfold σ schema σ[place] = .ok (.items vs) → vs.length = ts.length →
    (∀ p ∈ vs.zip ts, Unfolds p.1 p.2) → Unfolds (.object place) (.array ts)
  | entries {place : Nat} {es : List (Text × Value)} {ts : List (Tree Value)} (inside : place < σ.size) :
    (object place).unfold σ schema σ[place] = .ok (.entries (es.map .ok)) → es.length = ts.length →
    (∀ p ∈ es.zip ts, Unfolds p.1.2 p.2) →
    Unfolds (.object place) (.object (putEntries [] ((es.map Prod.fst).zip ts)))

end Graph

variable {σ : Store} {schema : Schema}

/-! ### Cycles -/

/-- The parts of a value that unfolds are not cyclic, so neither is the value. -/
theorem not_cyclic_of_edges {v : Value} (h : ∀ w, Edge σ schema v w → ¬ Cyclic σ schema w) : ¬ Cyclic σ schema v := by
  rintro ⟨w, hreach, htracked, hcycle⟩
  rcases ReflTransGen.cases_head hreach with rfl | ⟨c, hedge, hrest⟩
  · -- the value itself is on the cycle, and so is the part behind it
    obtain ⟨c, hedge, hback⟩ := TransGen.head'_iff.1 hcycle
    exact h c hedge ⟨v, hback, htracked, hcycle⟩
  · exact h c hedge ⟨w, hrest, htracked, hcycle⟩

/-- A part that is paired with something. -/
theorem exists_zip_of_mem {α β : Type} {l : List α} {ts : List β} (hlen : l.length = ts.length) {a : α}
    (ha : a ∈ l) : ∃ t, (a, t) ∈ l.zip ts := by
  obtain ⟨i, hi, rfl⟩ := List.mem_iff_getElem.1 ha
  refine ⟨ts[i], ?_⟩
  rw [List.mem_iff_getElem]
  exact ⟨i, by simpa [hlen] using hlen ▸ hi, by simp⟩

theorem exists_zip_of_mem_right {α β : Type} {l : List α} {ts : List β} (hlen : l.length = ts.length) {t : β}
    (ht : t ∈ ts) : ∃ a, (a, t) ∈ l.zip ts := by
  rw [← List.map_snd_zip (Nat.le_of_eq hlen.symm)] at ht
  obtain ⟨p, hp, rfl⟩ := List.mem_map.1 ht
  exact ⟨p.1, hp⟩

/-- A value that is cyclic has no unfolding. -/
theorem Unfolds.not_cyclic {v : Value} {t : Tree Value} (h : Unfolds σ schema v t) : ¬ Cyclic σ schema v := by
  induction h with
  | target _ ih => exact not_cyclic_of_edges fun w hw => by cases hw; exact ih
  | content _ ih => exact not_cyclic_of_edges fun w hw => by cases hw; exact ih
  | timestamp | date | clock | path | scalar | refined | shape | missing | foreign =>
    exact not_cyclic_of_edges fun w hw => by cases hw
  | nowhere hout =>
    refine not_cyclic_of_edges fun w hw => ?_
    cases hw with
    | part inside => exact absurd inside hout
  | atomic _ hunfold | cells _ hunfold =>
    refine not_cyclic_of_edges fun w hw => ?_
    cases hw with
    | part _ h hleads => rw [hunfold] at h; cases h; cases hleads
  | standIn _ hunfold _ ih =>
    refine not_cyclic_of_edges fun w hw => ?_
    cases hw with
    | part _ h hleads => rw [hunfold] at h; cases h; cases hleads; exact ih
  | items _ hunfold hlen _ ih =>
    refine not_cyclic_of_edges fun w hw => ?_
    cases hw with
    | part _ h hleads =>
      rw [hunfold] at h
      cases h
      obtain ⟨t, ht⟩ := exists_zip_of_mem hlen hleads
      exact ih _ ht
  | entries _ hunfold hlen _ ih =>
    refine not_cyclic_of_edges fun w hw => ?_
    cases hw with
    | part _ h hleads =>
      rw [hunfold] at h
      cases h
      obtain ⟨name, hmem⟩ := hleads
      obtain ⟨e, he, heq⟩ := List.mem_map.1 hmem
      cases heq
      obtain ⟨t, ht⟩ := exists_zip_of_mem hlen he
      exact ih _ ht

end Value

end RecordPrint
