import Mathlib.Data.List.Forall2

/-!
# Outcomes

What an outcome that is mapped or gone on from can come to. A function that may fail, applied to all members of a
list: it gives a result exactly if it gives one for each member, and otherwise the fault of the first member that has
one; so for two lists in a row it gives a result exactly if it does for each.

* `faultOf` — the fault of an outcome; of two steps in a row the first one that has a fault decides;
* `Agree` — two outcomes that have the same fault, or results that belong together.
-/

namespace RecordPrint

variable {α β ε : Type}

theorem map_eq_ok_iff {x : Except ε α} {f : α → β} {b : β} : x.map f = .ok b ↔ ∃ a, x = .ok a ∧ f a = b := by
  cases x <;> simp [Except.map]

theorem map_eq_error_iff {x : Except ε α} {f : α → β} {e : ε} : x.map f = .error e ↔ x = .error e := by
  cases x <;> simp [Except.map]

theorem bind_eq_ok_iff {x : Except ε α} {f : α → Except ε β} {b : β} :
    x.bind f = .ok b ↔ ∃ a, x = .ok a ∧ f a = .ok b := by
  cases x <;> simp [Except.bind]

theorem bind_eq_error_iff {x : Except ε α} {f : α → Except ε β} {e : ε} :
    x.bind f = .error e ↔ x = .error e ∨ ∃ a, x = .ok a ∧ f a = .error e := by
  cases x <;> simp [Except.bind]

theorem mapM_cons_ok {f : α → Except ε β} {a : α} {l : List α} {b : β} (h : f a = .ok b) :
    (a :: l).mapM f = (l.mapM f).map (b :: ·) := by
  rw [List.mapM_cons, h]
  rfl

theorem mapM_cons_error {f : α → Except ε β} {a : α} {l : List α} {e : ε} (h : f a = .error e) :
    (a :: l).mapM f = .error e := by
  rw [List.mapM_cons, h]
  rfl

theorem mapM_eq_ok_iff {f : α → Except ε β} {l : List α} {r : List β} :
    l.mapM f = .ok r ↔ List.Forall₂ (fun a b => f a = .ok b) l r := by
  induction l generalizing r with
  | nil => cases r <;> simp [pure, Except.pure]
  | cons a l ih =>
    cases ha : f a with
    | error e => cases r <;> simp [mapM_cons_error ha, ha]
    | ok b =>
      rw [mapM_cons_ok ha]
      cases hl : l.mapM f with
      | error e => cases r <;> simp [Except.map, ← ih, hl]
      | ok bs => cases r <;> simp [Except.map, ← ih, hl, ha]

theorem mapM_eq_ok_map {f : α → Except ε β} {g : α → β} {l : List α} (h : ∀ a ∈ l, f a = .ok (g a)) :
    l.mapM f = .ok (l.map g) := by
  rw [mapM_eq_ok_iff, List.forall₂_map_right_iff, List.forall₂_same]
  exact h

/-- Mapping each result is mapping the list of them. -/
theorem mapM_map_result {γ : Type} (f : α → Except ε β) (g : β → γ) (l : List α) :
    l.mapM (fun a => (f a).map g) = (l.mapM f).map (List.map g) := by
  induction l with
  | nil => rfl
  | cons a l ih =>
    rw [List.mapM_cons, List.mapM_cons, ih]
    cases f a with
    | error e => rfl
    | ok b => cases l.mapM f <;> rfl

theorem mapM_append_eq_ok_iff {f : α → Except ε β} {l m : List α} {r : List β} :
    (l ++ m).mapM f = .ok r ↔ ∃ a b, l.mapM f = .ok a ∧ m.mapM f = .ok b ∧ a ++ b = r := by
  rw [List.mapM_append]
  constructor
  · intro h
    obtain ⟨a, ha, h⟩ := bind_eq_ok_iff.1 h
    obtain ⟨b, hb, h⟩ := bind_eq_ok_iff.1 h
    cases h
    exact ⟨a, b, ha, hb, rfl⟩
  · rintro ⟨a, b, ha, hb, rfl⟩
    rw [ha, hb]
    rfl

theorem mapM_bind_eq_ok_iff {γ : Type} {f : α → Except ε β} {g : β → Except ε γ} {l : List α} {r : List γ} :
    l.mapM (fun a => (f a).bind g) = .ok r ↔ ∃ bs, l.mapM f = .ok bs ∧ bs.mapM g = .ok r := by
  simp only [mapM_eq_ok_iff]
  constructor
  · intro h
    induction h with
    | nil => exact ⟨[], .nil, .nil⟩
    | cons hfirst _ ih =>
      obtain ⟨b, hb, hc⟩ := bind_eq_ok_iff.1 hfirst
      obtain ⟨bs, hbs, hr⟩ := ih
      exact ⟨b :: bs, .cons hb hbs, .cons hc hr⟩
  · rintro ⟨bs, hbs, hr⟩
    induction hbs generalizing r with
    | nil =>
      cases hr
      exact .nil
    | cons hb _ ih =>
      cases hr with
      | cons hc hr => exact .cons (bind_eq_ok_iff.2 ⟨_, hb, hc⟩) (ih hr)

/-- Two functions that come to the same for members that belong together. -/
theorem mapM_congr {γ : Type} {R : α → β → Prop} {f : α → Except ε γ} {g : β → Except ε γ} {l : List α} {r : List β}
    (h : List.Forall₂ R l r) (hR : ∀ a b, R a b → f a = g b) : l.mapM f = r.mapM g := by
  induction h with
  | nil => rfl
  | @cons a b l r hab _ ih =>
    have hfirst := hR a b hab
    cases hb : g b with
    | error e => rw [mapM_cons_error (hfirst.trans hb), mapM_cons_error hb]
    | ok c => rw [mapM_cons_ok (hfirst.trans hb), mapM_cons_ok hb, ih]

theorem mapM_congr_left {f g : α → Except ε β} {l : List α} (h : ∀ a ∈ l, f a = g a) : l.mapM f = l.mapM g := by
  refine mapM_congr (R := fun a b => a = b ∧ a ∈ l) ?_ ?_
  · exact List.forall₂_same.2 fun a ha => ⟨rfl, ha⟩
  · rintro a b ⟨rfl, ha⟩
    exact h a ha

theorem map_eq_map_ok_iff {f : α → Except ε β} {l : List α} {r : List β} : l.map f = r.map .ok ↔ l.mapM f = .ok r := by
  rw [mapM_eq_ok_iff, ← List.forall₂_eq_eq_eq, List.forall₂_map_left_iff, List.forall₂_map_right_iff]

theorem exists_of_mapM_eq_ok {f : α → Except ε β} {l : List α} {r : List β} (h : l.mapM f = .ok r) {b : β}
    (hb : b ∈ r) : ∃ a ∈ l, f a = .ok b := by
  have hall := mapM_eq_ok_iff.1 h
  clear h
  induction hall with
  | nil => cases hb
  | cons hab _ ih =>
    rcases List.mem_cons.1 hb with rfl | hb
    · exact ⟨_, List.mem_cons_self, hab⟩
    · obtain ⟨a, ha, hfa⟩ := ih hb
      exact ⟨a, List.mem_cons_of_mem _ ha, hfa⟩

theorem exists_of_mapM_eq_error {f : α → Except ε β} {l : List α} {e : ε} (h : l.mapM f = .error e) :
    ∃ a ∈ l, f a = .error e := by
  induction l with
  | nil => cases h
  | cons a l ih =>
    cases ha : f a with
    | error e' =>
      rw [mapM_cons_error ha] at h
      cases h
      exact ⟨a, List.mem_cons_self, ha⟩
    | ok b =>
      rw [mapM_cons_ok ha] at h
      cases hl : l.mapM f with
      | error e' =>
        rw [hl] at h
        cases h
        obtain ⟨c, hc, hfc⟩ := ih hl
        exact ⟨c, List.mem_cons_of_mem _ hc, hfc⟩
      | ok bs =>
        rw [hl] at h
        cases h

theorem exists_mapM_eq_error_iff {f : α → Except ε β} {l : List α} :
    (∃ e, l.mapM f = .error e) ↔ ∃ a ∈ l, ∃ e, f a = .error e := by
  induction l with
  | nil => simp [pure, Except.pure]
  | cons a l ih =>
    cases ha : f a with
    | error e => simp [mapM_cons_error ha, ha]
    | ok b => simp [mapM_cons_ok ha, ha, map_eq_error_iff, ih]

/-! ### Faults -/

/-- The fault of an outcome, if it has one. -/
def faultOf : Except ε α → Option ε
  | .ok _ => none
  | .error e => some e

theorem faultOf_eq_some_iff {x : Except ε α} {e : ε} : faultOf x = some e ↔ x = .error e := by
  cases x <;> simp [faultOf]

theorem faultOf_bind_ok (x : Except ε α) (f : α → β) : faultOf (x.bind fun a => .ok (f a)) = faultOf x := by
  cases x <;> rfl

/-- Of two steps the first one that has a fault decides. -/
theorem faultOf_bind {x : Except ε α} {f : α → Except ε β} {next : Option ε} (h : ∀ a, faultOf (f a) = next) :
    faultOf (x.bind f) = (faultOf x).or next := by
  cases x with
  | error e => rfl
  | ok a => exact h a

/-! ### Outcomes that agree -/

/-- Two outcomes that have the same fault, or results that belong together. -/
inductive Agree (R : α → β → Prop) : Except ε α → Except ε β → Prop where
  | fault (e : ε) : Agree R (.error e) (.error e)
  | result {a : α} {b : β} : R a b → Agree R (.ok a) (.ok b)

namespace Agree

variable {γ δ : Type} {R : α → β → Prop} {S : γ → δ → Prop} {x : Except ε α} {y : Except ε β}

theorem same {R : α → α → Prop} (hR : ∀ a, R a a) (x : Except ε α) : Agree R x x := by
  cases x with
  | error e => exact .fault e
  | ok a => exact .result (hR a)

theorem exists_of_ok {a : α} (h : Agree R (.ok a) y) : ∃ b, y = .ok b ∧ R a b := by
  cases h with
  | result hab => exact ⟨_, rfl, hab⟩

theorem bind {f : α → Except ε γ} {g : β → Except ε δ} (h : Agree R x y) (hfg : ∀ a b, R a b → Agree S (f a) (g b)) :
    Agree S (x.bind f) (y.bind g) := by
  cases h with
  | fault e => exact .fault e
  | result hab => exact hfg _ _ hab

theorem map {f : α → γ} {g : β → δ} (h : Agree R x y) (hfg : ∀ a b, R a b → S (f a) (g b)) :
    Agree S (x.map f) (y.map g) := by
  cases h with
  | fault e => exact .fault e
  | result hab => exact .result (hfg _ _ hab)

theorem bind_eq {f : α → Except ε γ} {g : β → Except ε γ} (h : Agree R x y) (hfg : ∀ a b, R a b → f a = g b) :
    x.bind f = y.bind g := by
  cases h with
  | fault e => rfl
  | result hab => exact hfg _ _ hab

end Agree

end RecordPrint
