import RecordPrint.Proofs.Outcome
import RecordPrint.Proofs.Record.Graph

/-!
# Walks and unfoldings

The walk to a normal form, against the graph of the store.

* `walk_induction` — the induction that the walk gives: on the objects that it is not inside of, then on the value;
* `unfolds_of_outcome` — what the walk gives is the unfolding of the value;
* `Unfolds.outcome_eq` — a value with an unfolding is given it by each walk that it does not lead back into;
* `normalize_eq_ok_iff` — so normalization gives exactly the unfoldings.
-/

namespace RecordPrint

open Relation (ReflTransGen TransGen)

/-! ### Outcomes of walks -/

namespace Walk

variable {α β : Type} {active : List Nat}

@[simp] theorem outcome_still (o : Except Fault α) : (still active o).outcome = o := rfl

@[simp] theorem outcome_map (f : α → β) (w : Walk active α) : (w.map f).outcome = w.outcome.map f := rfl

@[simp] theorem outcome_enter (place : Nat) (w : Walk (place :: active) α) : (w.enter place).outcome = w.outcome :=
  rfl

@[simp] theorem outcome_entry (f : α → Walk active β) (e : Except Fault (Text × α)) :
    (entry f e).outcome = mapEntry (fun a => (f a).outcome) e := by
  cases e <;> rfl

theorem outcome_each (f : (s : List Nat) → s = active → α → Walk s β) (l : List α) (s : List Nat)
    (same : s = active) : (each f l s same).outcome = l.mapM fun a => (f active rfl a).outcome := by
  induction l generalizing s with
  | nil => rfl
  | cons a l ih =>
    subst same
    rw [each]
    cases ha : (f s rfl a).outcome with
    | error e => exact (mapM_cons_error (f := fun a => (f s rfl a).outcome) ha).symm
    | ok b =>
      rw [mapM_cons_ok (f := fun a => (f s rfl a).outcome) ha]
      exact congrArg (Except.map (b :: ·)) (ih _ _)

end Walk

/-- What becomes of a step of unfolding when `f` gives the normal forms of its parts. -/
def Unfolding.assemble (v : Value) (f : Value → Except Fault (Tree Value)) : Unfolding → Except Fault (Tree Value)
  | .atomic => .ok (.leaf v)
  | .cells cs => .ok (.object (putEntries [] (cs.map fun c => (c.1, .leaf c.2))))
  | .standIn w => f w
  | .items vs => (vs.mapM f).map .array
  | .entries es => (es.mapM (mapEntry f)).map fun pairs => .object (putEntries [] pairs)

/-- Whether each part of a step of unfolding can be read. -/
def Unfolding.Readable : Unfolding → Prop
  | .entries es => ∀ r ∈ es, ∃ p, r = .ok p
  | _ => True

namespace Value

variable {σ : Store} {schema : Schema} {active : List Nat}

/-- The outcome of the walk to the normal form of a value. -/
def outcome (σ : Store) (schema : Schema) (active : List Nat) (v : Value) : Except Fault (Tree Value) :=
  (v.normalizeWithin σ schema active).outcome

@[simp] theorem outcome_ref (w : Value) : outcome σ schema active (.ref w) = outcome σ schema active w := by
  rw [outcome, normalizeWithin, outcome]

@[simp] theorem outcome_member (shape name : Text) (mixin : Mixin) (w : Value) :
    outcome σ schema active (.member shape name mixin w) = outcome σ schema active w := by
  rw [outcome, normalizeWithin, outcome]

theorem outcome_circular {place : Nat} (inside : place < σ.size) (old : place ∈ active) :
    outcome σ schema active (.object place) = .error .circular := by
  rw [outcome, normalizeWithin, dif_pos inside, dif_pos old, Walk.outcome_still]

theorem outcome_nowhere {place : Nat} (h : ¬ place < σ.size) :
    outcome σ schema active (.object place) = .ok (.leaf (.object place)) := by
  rw [outcome, normalizeWithin, dif_neg h, Walk.outcome_still]

theorem outcome_object {place : Nat} (inside : place < σ.size) (new : place ∉ active) :
    outcome σ schema active (.object place) = ((object place).unfold σ schema σ[place]).bind
      (Unfolding.assemble (.object place) (outcome σ schema (place :: active))) := by
  rw [outcome, normalizeWithin, dif_pos inside, dif_neg new, Walk.outcome_enter]
  cases h : (object place).unfold σ schema σ[place] with
  | error f => rfl
  | ok u =>
    cases u with
    | atomic => rfl
    | cells cs => rfl
    | standIn w => rfl
    | items vs =>
      simp only [Walk.outcome_map, Walk.outcome_each]
      rfl
    | entries es =>
      simp only [Walk.outcome_map, Walk.outcome_each, Walk.outcome_entry]
      rfl

/-! ### Induction along a walk -/

/-- The values that a walk does not go on from. -/
def IsEnd (σ : Store) (active : List Nat) : Value → Prop
  | .ref _ => False
  | .member _ _ _ _ => False
  | .object place => place < σ.size → place ∈ active
  | _ => True

/-- A property of values and the objects that a walk is inside of holds if it is passed on from the values that
each value leads to. -/
theorem walk_induction {motive : List Nat → Value → Prop}
    (target : ∀ active w, motive active w → motive active (.ref w))
    (content : ∀ active s n m w, motive active w → motive active (.member s n m w))
    (enter : ∀ active place, place < σ.size → place ∉ active → (∀ w, motive (place :: active) w) →
      motive active (.object place))
    (stop : ∀ active v, IsEnd σ active v → motive active v) : ∀ active v, motive active v
  | active, .ref w => target active w (walk_induction target content enter stop active w)
  | active, .member s n m w => content active s n m w (walk_induction target content enter stop active w)
  | active, .object place => by
    by_cases inside : place < σ.size
    · by_cases old : place ∈ active
      · exact stop active _ fun _ => old
      · exact enter active place inside old fun w => walk_induction target content enter stop (place :: active) w
    · exact stop active _ fun h => absurd h inside
  | active, .scalar _ | active, .refined _ _ _ | active, .timestamp _ | active, .date _ | active, .clock _
  | active, .path _ | active, .shape _ _ | active, .missing | active, .foreign _ => stop active _ trivial
termination_by active v => (unopened σ active, sizeOf v)
decreasing_by
  · exact Prod.Lex.right _ (by simp only [Value.ref.sizeOf_spec]; omega)
  · exact Prod.Lex.right _ (by simp only [Value.member.sizeOf_spec]; omega)
  · exact Prod.Lex.left _ _ (unopened_cons_lt inside old)

/-! ### What a walk gives -/

/-- An entry that a function is applied to. -/
theorem mapEntry_eq_ok {α β : Type} {f : α → Except Fault β} {e : Except Fault (Text × α)} {r : Text × β}
    (h : mapEntry f e = .ok r) : ∃ a, e = .ok (r.1, a) ∧ f a = .ok r.2 := by
  cases e with
  | error e => cases h
  | ok p =>
    cases hf : f p.2 with
    | error e => simp [mapEntry, Except.bind, Except.map, hf] at h
    | ok b =>
      simp only [mapEntry, Except.bind, Except.map, hf, Except.ok.injEq] at h
      subst h
      exact ⟨p.2, rfl, hf⟩

/-- Entries that a function is applied to: all of them can be read. -/
theorem mapM_mapEntry_eq_ok {α β : Type} {f : α → Except Fault β} {es : List (Except Fault (Text × α))}
    {ps : List (Text × β)} (h : es.mapM (mapEntry f) = .ok ps) :
    ∃ named : List (Text × α), es = named.map .ok ∧ named.map Prod.fst = ps.map Prod.fst ∧
      List.Forall₂ (fun n b => f n.2 = .ok b) named (ps.map Prod.snd) := by
  induction mapM_eq_ok_iff.1 h with
  | nil => exact ⟨[], rfl, rfl, .nil⟩
  | @cons e p es ps he hes ih =>
    obtain ⟨a, rfl, ha⟩ := mapEntry_eq_ok he
    obtain ⟨named, rfl, hnames, hparts⟩ := ih (mapM_eq_ok_iff.2 hes)
    exact ⟨(p.1, a) :: named, rfl, by simp [hnames], .cons ha hparts⟩

theorem unfolds_of_assemble {place : Nat} {u : Unfolding} {t : Tree Value} {f : Value → Except Fault (Tree Value)}
    (inside : place < σ.size) (hunfold : (object place).unfold σ schema σ[place] = .ok u)
    (hf : ∀ w t, f w = .ok t → Unfolds σ schema w t) (h : u.assemble (.object place) f = .ok t) :
    Unfolds σ schema (.object place) t := by
  cases u with
  | atomic => cases h; exact .atomic inside hunfold
  | cells cs => cases h; exact .cells inside hunfold
  | standIn w => exact .standIn inside hunfold (hf w t h)
  | items vs =>
    cases hts : vs.mapM f with
    | error e => simp [Unfolding.assemble, hts, Except.map] at h
    | ok ts =>
      simp only [Unfolding.assemble, hts, Except.map, Except.ok.injEq] at h
      subst h
      obtain ⟨hlen, hparts⟩ := List.forall₂_iff_zip.1 (mapM_eq_ok_iff.1 hts)
      exact .items inside hunfold hlen fun p hp => hf _ _ (hparts hp)
  | entries es =>
    cases hps : es.mapM (mapEntry f) with
    | error e => simp [Unfolding.assemble, hps, Except.map] at h
    | ok ps =>
      simp only [Unfolding.assemble, hps, Except.map, Except.ok.injEq] at h
      subst h
      obtain ⟨named, rfl, hnames, hparts⟩ := mapM_mapEntry_eq_ok hps
      obtain ⟨hlen, hzip⟩ := List.forall₂_iff_zip.1 hparts
      have hpairs : ps = (named.map Prod.fst).zip (ps.map Prod.snd) := by
        rw [hnames, List.zip_map']
        simp
      rw [hpairs]
      exact .entries inside hunfold hlen fun p hp => hf _ _ (hzip hp)

/-- What the walk gives is the unfolding of the value. -/
theorem unfolds_of_outcome {v : Value} {t : Tree Value} (h : outcome σ schema active v = .ok t) :
    Unfolds σ schema v t := by
  induction active, v using walk_induction (σ := σ) generalizing t with
  | target active w ih => exact .target (ih (by simpa using h))
  | content active s n m w ih => exact .content (ih (by simpa using h))
  | enter active place inside new ih =>
    rw [outcome_object inside new] at h
    cases hunfold : (object place).unfold σ schema σ[place] with
    | error f => rw [hunfold] at h; cases h
    | ok u =>
      rw [hunfold] at h
      exact unfolds_of_assemble inside hunfold (fun w t ht => ih w ht) h
  | stop active v hend =>
    cases v with
    | ref w => cases hend
    | member s n m w => cases hend
    | object place =>
      by_cases inside : place < σ.size
      · rw [outcome_circular inside (hend inside)] at h
        cases h
      · rw [outcome_nowhere inside] at h
        cases h
        exact .nowhere inside
    | timestamp d =>
      rw [outcome, normalizeWithin, Walk.outcome_still] at h
      cases hz : d.iso (.char 'T') with
      | error f => rw [hz] at h; cases h
      | ok s => rw [hz] at h; cases h; exact .timestamp hz
    | clock c =>
      rw [outcome, normalizeWithin, Walk.outcome_still] at h
      cases hz : c.iso with
      | error f => rw [hz] at h; cases h
      | ok s => rw [hz] at h; cases h; exact .clock hz
    | date | path | scalar | refined | shape | missing | foreign =>
      simp only [outcome, normalizeWithin, Walk.outcome_still, Except.ok.injEq] at h
      subst h
      constructor

/-- Entries that can be read, with what a function gives for them. -/
theorem mapM_mapEntry_ok {α β : Type} {f : α → Except Fault β} {es : List (Text × α)} {ts : List β}
    (hlen : es.length = ts.length) (h : ∀ p ∈ es.zip ts, f p.1.2 = .ok p.2) :
    (es.map .ok).mapM (mapEntry f) = .ok ((es.map Prod.fst).zip ts) := by
  induction es generalizing ts with
  | nil => rfl
  | cons e es ih =>
    cases ts with
    | nil => cases hlen
    | cons t ts =>
      have hfirst : mapEntry f (.ok e) = .ok (e.1, t) := by
        have := h (e, t) List.mem_cons_self
        simp only [mapEntry, Except.bind, Except.map, this]
      rw [List.map_cons, mapM_cons_ok hfirst, ih (by simpa using hlen) fun p hp => h p (List.mem_cons_of_mem _ hp)]
      rfl

/-- The parts of an object that is not cyclic do not lead back into a walk that enters it. -/
theorem not_reaches_of_edge {place : Nat} {w : Value} (hcyclic : ¬ Cyclic σ schema (.object place))
    (hactive : ∀ p ∈ active, ¬ Reaches σ schema (.object place) (.object p)) (hedge : Edge σ schema (.object place) w) :
    ∀ p ∈ place :: active, ¬ Reaches σ schema w (.object p) := by
  intro p hp hreach
  rcases List.mem_cons.1 hp with rfl | hp
  · exact hcyclic ⟨_, ReflTransGen.refl, rfl, TransGen.head' hedge hreach⟩
  · exact hactive p hp (ReflTransGen.head hedge hreach)

/-- The walk gives the unfolding of a value that does not lead to an object that the walk is inside of. -/
theorem Unfolds.outcome_eq {v : Value} {t : Tree Value} (h : Unfolds σ schema v t)
    (hactive : ∀ place ∈ active, ¬ Reaches σ schema v (.object place)) : outcome σ schema active v = .ok t := by
  have hcyclic := h.not_cyclic
  -- each object that is entered is one more that the parts must not lead back to
  induction h generalizing active with
  | target h ih =>
    rw [outcome_ref]
    exact ih (fun p hp hreach => hactive p hp (ReflTransGen.head (.target _) hreach)) h.not_cyclic
  | content h ih =>
    rw [outcome_member]
    exact ih (fun p hp hreach => hactive p hp (ReflTransGen.head (.content _ _ _ _) hreach)) h.not_cyclic
  | timestamp hs =>
    rw [outcome, normalizeWithin, hs]
    rfl
  | clock hs =>
    rw [outcome, normalizeWithin, hs]
    rfl
  | date | path | scalar | refined | shape | missing | foreign => simp [outcome, normalizeWithin]
  | nowhere hout => exact outcome_nowhere hout
  | @atomic place inside hunfold =>
    rw [outcome_object inside fun hp => hactive place hp ReflTransGen.refl, hunfold]
    rfl
  | @cells place cs inside hunfold =>
    rw [outcome_object inside fun hp => hactive place hp ReflTransGen.refl, hunfold]
    rfl
  | @standIn place w t inside hunfold h ih =>
    rw [outcome_object inside fun hp => hactive place hp ReflTransGen.refl, hunfold]
    exact ih (not_reaches_of_edge hcyclic hactive (.part inside hunfold rfl)) h.not_cyclic
  | @items place vs ts inside hunfold hlen hparts ih =>
    have hitems : vs.mapM (outcome σ schema (place :: active)) = .ok ts := by
      refine mapM_eq_ok_iff.2 (List.forall₂_iff_zip.2 ⟨hlen, fun {w t} hp => ?_⟩)
      have hedge : Edge σ schema (.object place) w := .part inside hunfold (List.of_mem_zip hp).1
      exact ih (w, t) hp (not_reaches_of_edge hcyclic hactive hedge) (hparts (w, t) hp).not_cyclic
    rw [outcome_object inside fun hp => hactive place hp ReflTransGen.refl, hunfold]
    exact congrArg (Except.map Tree.array) hitems
  | @entries place es ts inside hunfold hlen hparts ih =>
    have hentries : (es.map .ok).mapM (mapEntry (outcome σ schema (place :: active))) =
        .ok ((es.map Prod.fst).zip ts) := by
      refine mapM_mapEntry_ok hlen fun p hp => ?_
      have hmem : Except.ok (p.1.1, p.1.2) ∈ es.map (Except.ok : _ → Except Fault (Text × Value)) :=
        List.mem_map_of_mem (List.of_mem_zip hp).1
      have hedge : Edge σ schema (.object place) p.1.2 := .part inside hunfold ⟨p.1.1, hmem⟩
      exact ih p hp (not_reaches_of_edge hcyclic hactive hedge) (hparts p hp).not_cyclic
    rw [outcome_object inside fun hp => hactive place hp ReflTransGen.refl, hunfold]
    exact congrArg (Except.map fun pairs => Tree.object (putEntries [] pairs)) hentries

/-- Normalization gives exactly the unfoldings. -/
theorem normalize_eq_ok_iff {v : Value} {t : Tree Value} :
    v.normalize σ schema = .ok t ↔ Unfolds σ schema v t :=
  ⟨unfolds_of_outcome, fun h => h.outcome_eq fun _ hp => absurd hp List.not_mem_nil⟩

/-- A value has at most one unfolding. -/
theorem Unfolds.unique {v : Value} {t u : Tree Value} (ht : Unfolds σ schema v t) (hu : Unfolds σ schema v u) :
    u = t := by
  have := (normalize_eq_ok_iff.2 ht).symm.trans (normalize_eq_ok_iff.2 hu)
  cases this
  rfl

end Value

end RecordPrint
