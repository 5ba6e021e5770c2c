import RecordPrint.Proofs.Entries

/-!
# Trees that JSON texts denote

* `Tree.WellFormed` — the trees that have JSON texts: names are distinct and numbers can be written;
* `Tree.distinct_putEntries` — entries that are put one by one have distinct names.
-/

namespace RecordPrint

/-- A scalar that JSON texts denote: a number is finite, and the digits of an integer are within the limit. -/
def Scalar.Writable : Scalar → Prop
  | .int n => (Numeral.ofNat n.natAbs).length ≤ Numeral.digitLimit
  | .float x => ∃ y, x = .finite y
  | _ => True

/-- A tree that JSON texts denote: the entries of each object have distinct names. -/
inductive Tree.WellFormed : Json → Prop where
  | leaf {s : Scalar} : s.Writable → WellFormed (.leaf s)
  | array {items : List Json} : (∀ t ∈ items, WellFormed t) → WellFormed (.array items)
  | object {entries : List (Text × Json)} : (entries.map Prod.fst).Nodup → (∀ e ∈ entries, WellFormed e.2) →
    WellFormed (.object entries)

/-- The entries of each object of a tree have distinct names, whatever its leaves are. -/
inductive Tree.Distinct {α : Type} : Tree α → Prop where
  | leaf (a : α) : Distinct (.leaf a)
  | array {items : List (Tree α)} : (∀ t ∈ items, Distinct t) → Distinct (.array items)
  | object {entries : List (Text × Tree α)} : (entries.map Prod.fst).Nodup → (∀ e ∈ entries, Distinct e.2) →
    Distinct (.object entries)

theorem Tree.WellFormed.distinct {j : Json} (h : j.WellFormed) : j.Distinct := by
  induction h with
  | leaf _ => exact .leaf _
  | array _ ih => exact .array ih
  | object hnames _ ih => exact .object hnames ih

/-- A text stands in a tree: it is a leaf, or the name of an entry. -/
inductive Tree.Holds (t : Text) : Json → Prop where
  | leaf : Holds t (.leaf (.text t))
  | item {items : List Json} {j : Json} : j ∈ items → Holds t j → Holds t (.array items)
  | name {entries : List (Text × Json)} {j : Json} : (t, j) ∈ entries → Holds t (.object entries)
  | value {entries : List (Text × Json)} {e : Text × Json} : e ∈ entries → Holds t e.2 → Holds t (.object entries)

/-- A tree with another content of its leaves. -/
def Tree.map {α β : Type} (f : α → β) : Tree α → Tree β
  | .leaf a => .leaf (f a)
  | .array items => .array (items.map (map f))
  | .object entries => .object (entries.map fun e => (e.1, map f e.2))
decreasing_by
  · have := List.sizeOf_lt_of_mem ‹_ ∈ items›
    simp only [Tree.array.sizeOf_spec]
    omega
  · obtain ⟨name, t⟩ := e
    have := List.sizeOf_lt_of_mem ‹_ ∈ entries›
    simp only [Prod.mk.sizeOf_spec, Tree.object.sizeOf_spec] at this ⊢
    omega

theorem Tree.Distinct.map {α β : Type} {t : Tree α} (h : t.Distinct) (f : α → β) : (t.map f).Distinct := by
  induction h with
  | leaf a =>
    rw [Tree.map]
    exact .leaf (f a)
  | array _ ih =>
    rw [Tree.map]
    exact .array (by simpa using ih)
  | object hnames _ ih =>
    rw [Tree.map]
    refine .object ?_ ?_
    · rw [List.map_map]
      exact hnames
    · intro e' he'
      obtain ⟨e, he, rfl⟩ := List.mem_map.1 he'
      exact ih e he

/-! ### Distinct entries -/

/-- An object is distinct if it is made of entries with distinct values one by one, whatever their names are. -/
theorem Tree.distinct_putEntries {α : Type} {es : List (Text × Tree α)} (h : ∀ e ∈ es, e.2.Distinct) :
    (Tree.object (putEntries [] es)).Distinct :=
  .object (nodup_putEntries List.nodup_nil) (forall_mem_putEntries (by simp) h)

end RecordPrint
