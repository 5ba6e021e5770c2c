import RecordPrint.Json.Writer
import RecordPrint.Proofs.Json.Trees
import RecordPrint.Proofs.Outcome

/-!
# Leaves of trees

* `Tree.HasLeaf.of_putEntries`, `Tree.HasLeaf.of_map` — where the leaves of a tree come from;
* `Json.write_map`, `Json.write_congr` — a tree is written as its leaves are;
* `Json.leaf_of_write` — so it is not written at all if one of them is not;
* `Json.faultOf_write` — then the first leaf in the order of the text that is not written decides which fault is told.
-/

namespace RecordPrint

/-- A leaf stands in a tree. -/
inductive Tree.HasLeaf {α : Type} (a : α) : Tree α → Prop where
  | leaf : HasLeaf a (.leaf a)
  | item {items : List (Tree α)} {t : Tree α} : t ∈ items → HasLeaf a t → HasLeaf a (.array items)
  | entry {entries : List (Text × Tree α)} {e : Text × Tree α} : e ∈ entries → HasLeaf a e.2 →
    HasLeaf a (.object entries)

/-- The leaves of a tree in the order in which they are written. -/
def Tree.leaves {α : Type} : Tree α → List α
  | .leaf a => [a]
  | .array items => items.flatMap leaves
  | .object entries => entries.flatMap fun e => leaves e.2
decreasing_by
  · have := List.sizeOf_lt_of_mem ‹_ ∈ items›
    simp only [Tree.array.sizeOf_spec]
    omega
  · obtain ⟨name, t⟩ := e
    have := List.sizeOf_lt_of_mem ‹_ ∈ entries›
    simp only [Prod.mk.sizeOf_spec, Tree.object.sizeOf_spec] at this ⊢
    omega

theorem Tree.mem_leaves {α : Type} {t : Tree α} {a : α} : a ∈ t.leaves ↔ t.HasLeaf a := by
  constructor
  · induction t using Tree.leaves.induct with
    | case1 b =>
      intro h
      rw [leaves, List.mem_singleton] at h
      rw [h]
      exact .leaf
    | case2 items ih =>
      intro h
      rw [leaves] at h
      obtain ⟨t, ht, ha⟩ := List.mem_flatMap.1 h
      exact .item ht (ih t ht ha)
    | case3 entries ih =>
      intro h
      rw [leaves] at h
      obtain ⟨e, he, ha⟩ := List.mem_flatMap.1 h
      exact .entry he (ih e he ha)
  · intro h
    induction h with
    | leaf =>
      rw [leaves]
      exact List.mem_singleton.2 rfl
    | item ht _ ih =>
      rw [leaves]
      exact List.mem_flatMap.2 ⟨_, ht, ih⟩
    | entry he _ ih =>
      rw [leaves]
      exact List.mem_flatMap.2 ⟨_, he, ih⟩

/-- A leaf of an object stands in one of the entries that it is made of. -/
theorem Tree.HasLeaf.of_putEntries {α : Type} {a : α} {es : List (Text × Tree α)}
    (h : (Tree.object (putEntries [] es)).HasLeaf a) : ∃ e ∈ es, e.2.HasLeaf a := by
  cases h with
  | entry he ha =>
    exact forall_mem_putEntries (P := fun e => e.2.HasLeaf a → ∃ e ∈ es, e.2.HasLeaf a) (by simp)
      (fun e he ha => ⟨e, he, ha⟩) _ he ha

theorem Tree.HasLeaf.of_map {α β : Type} {f : α → β} {t : Tree α} {b : β} (h : (t.map f).HasLeaf b) :
    ∃ a, t.HasLeaf a ∧ f a = b := by
  generalize ht : t.map f = u at h
  induction h generalizing t with
  | leaf =>
    cases t with
    | leaf a =>
      rw [map, leaf.injEq] at ht
      exact ⟨a, .leaf, ht⟩
    | array items => rw [map] at ht; cases ht
    | object entries => rw [map] at ht; cases ht
  | item hmem _ ih =>
    cases t with
    | leaf a => rw [map] at ht; cases ht
    | array items =>
      rw [map, array.injEq] at ht
      subst ht
      obtain ⟨t, ht, rfl⟩ := List.mem_map.1 hmem
      obtain ⟨a, ha, hb⟩ := ih rfl
      exact ⟨a, .item ht ha, hb⟩
    | object entries => rw [map] at ht; cases ht
  | entry hmem _ ih =>
    cases t with
    | leaf a => rw [map] at ht; cases ht
    | array items => rw [map] at ht; cases ht
    | object entries =>
      rw [map, object.injEq] at ht
      subst ht
      obtain ⟨e, he, rfl⟩ := List.mem_map.1 hmem
      obtain ⟨a, ha, hb⟩ := ih rfl
      exact ⟨a, .entry he ha, hb⟩

theorem Tree.Distinct.wellFormed {j : Json} (h : j.Distinct) (hs : ∀ s, j.HasLeaf s → s.Writable) : j.WellFormed := by
  induction h with
  | leaf s => exact .leaf (hs s .leaf)
  | array _ ih => exact .array fun t ht => ih t ht fun s h => hs s (.item ht h)
  | object hnames _ ih => exact .object hnames fun e he => ih e he fun s h => hs s (.entry he h)

theorem Tree.map_id {α : Type} (t : Tree α) : t.map id = t := by
  induction t using Tree.map.induct with
  | case1 a => rw [map, id]
  | case2 items ih => rw [map, List.map_congr_left ih, List.map_id']
  | case3 entries ih =>
    have hentries : entries.map (fun e => (e.1, e.2.map id)) = entries.map fun e => e :=
      List.map_congr_left fun e he => Prod.ext rfl (ih e he)
    rw [map, hentries, List.map_id']

namespace Json

variable {α β : Type} {leaf : Nat → α → Except Fault Text} {leaf' : Nat → β → Except Fault Text}

/-- A tree is written as before when each of its leaves is replaced by one with the same text. -/
theorem write_map (f : α → β) (level : Nat) (t : Tree α)
    (h : ∀ a, t.HasLeaf a → ∀ level, leaf' level (f a) = leaf level a) :
    write leaf' level (t.map f) = write leaf level t := by
  refine write.induct
    (fun level t => (∀ a, t.HasLeaf a → ∀ level, leaf' level (f a) = leaf level a) →
      write leaf' level (t.map f) = write leaf level t)
    (fun level es => (∀ e ∈ es, ∀ a, e.2.HasLeaf a → ∀ level, leaf' level (f a) = leaf level a) →
      writeEntries leaf' level (es.map fun e => (e.1, e.2.map f)) = writeEntries leaf level es)
    (fun level ts => (∀ t ∈ ts, ∀ a, t.HasLeaf a → ∀ level, leaf' level (f a) = leaf level a) →
      writeItems leaf' level (ts.map (Tree.map f)) = writeItems leaf level ts) ?_ ?_ ?_ ?_ ?_ ?_ ?_ ?_ ?_ level t h
  · intro level a h
    rw [Tree.map, write, write]
    exact h a .leaf level
  · intro level h
    rw [Tree.map]
    rfl
  · intro level items hne ih h
    have hitems := ih fun t ht a ha => h a (.item ht ha)
    cases items with
    | nil => exact absurd rfl hne
    | cons t ts =>
      rw [Tree.map]
      rw [List.map_cons] at hitems ⊢
      rw [write, write, hitems] <;> exact List.cons_ne_nil _ _
  · intro level h
    rw [Tree.map]
    rfl
  · intro level entries hne ih h
    have hentries := ih fun e he a ha => h a (.entry he ha)
    cases entries with
    | nil => exact absurd rfl hne
    | cons e es =>
      rw [Tree.map]
      rw [List.map_cons] at hentries ⊢
      rw [write, write, hentries] <;> exact List.cons_ne_nil _ _
  · intro level h
    rfl
  · intro level t ts ih ihs h
    have hfirst := ih fun a ha => h t List.mem_cons_self a ha
    have hrest := ihs fun t' ht' a ha => h t' (List.mem_cons_of_mem _ ht') a ha
    rw [List.map_cons, writeItems, writeItems, hfirst, hrest]
    cases ts <;> rfl
  · intro level h
    rfl
  · intro level name t es ih ihs h
    have hfirst := ih fun a ha => h (name, t) List.mem_cons_self a ha
    have hrest := ihs fun e he a ha => h e (List.mem_cons_of_mem _ he) a ha
    rw [List.map_cons, writeEntries, writeEntries, hfirst, hrest]
    cases es <;> rfl

/-- A tree is written the same by functions that give each of its leaves the same text. -/
theorem write_congr {leaf' : Nat → α → Except Fault Text} (level : Nat) {t : Tree α}
    (h : ∀ a, t.HasLeaf a → ∀ level, leaf' level a = leaf level a) : write leaf' level t = write leaf level t := by
  have hmap := write_map id level t h
  rwa [Tree.map_id] at hmap

/-- A tree fails with the fault of its first leaf that has one, and is written if none of them has one. -/
theorem faultOf_write {fault? : α → Option Fault} (level : Nat) (t : Tree α)
    (h : ∀ a ∈ t.leaves, ∀ level, faultOf (leaf level a) = fault? a) :
    faultOf (write leaf level t) = t.leaves.findSome? fault? := by
  refine write.induct
    (fun level t => (∀ a ∈ t.leaves, ∀ level, faultOf (leaf level a) = fault? a) →
      faultOf (write leaf level t) = t.leaves.findSome? fault?)
    (fun level es => (∀ a ∈ es.flatMap fun e => e.2.leaves, ∀ level, faultOf (leaf level a) = fault? a) →
      faultOf (writeEntries leaf level es) = (es.flatMap fun e => e.2.leaves).findSome? fault?)
    (fun level ts => (∀ a ∈ ts.flatMap Tree.leaves, ∀ level, faultOf (leaf level a) = fault? a) →
      faultOf (writeItems leaf level ts) = (ts.flatMap Tree.leaves).findSome? fault?)
    ?_ ?_ ?_ ?_ ?_ ?_ ?_ ?_ ?_ level t h
  · intro level a h
    rw [Tree.leaves] at h ⊢
    rw [write, h a (List.mem_singleton.2 rfl), List.findSome?_singleton]
  · intro level h
    rw [Tree.leaves]
    rfl
  · intro level items hne ih h
    rw [Tree.leaves] at h ⊢
    rw [write]
    · exact (faultOf_bind_ok _ _).trans (ih h)
    · exact hne
  · intro level h
    rw [Tree.leaves]
    rfl
  · intro level entries hne ih h
    rw [Tree.leaves] at h ⊢
    rw [write]
    · exact (faultOf_bind_ok _ _).trans (ih h)
    · exact hne
  · intro level h
    rfl
  · intro level t ts ih ihs h
    rw [List.flatMap_cons] at h ⊢
    have hfirst := ih fun a ha => h a (List.mem_append_left _ ha)
    have hrest := ihs fun a ha => h a (List.mem_append_right _ ha)
    rw [List.findSome?_append, ← hfirst, ← hrest]
    exact faultOf_bind fun _ => faultOf_bind_ok _ _
  · intro level h
    rfl
  · intro level name t es ih ihs h
    rw [List.flatMap_cons] at h ⊢
    have hfirst := ih fun a ha => h a (List.mem_append_left _ ha)
    have hrest := ihs fun a ha => h a (List.mem_append_right _ ha)
    rw [List.findSome?_append, ← hfirst, ← hrest]
    exact faultOf_bind fun _ => faultOf_bind_ok _ _

end Json

end RecordPrint
