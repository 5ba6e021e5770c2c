import RecordPrint.Proofs.Record.Spelled
import RecordPrint.Record.Load

/-!
# Values that denote trees

* `Value.Denotes` — scalars, lists, and dictionaries whose keys are texts denote trees;
* `Denotes.unfolds` — the unfolding of such a value is its tree;
* `denotes_load` — a tree that is loaded into a store is denoted by its value, and so are records.
-/

namespace RecordPrint

namespace Value

/-- A value denotes a tree: a scalar is a leaf, a list is an array, a dictionary whose keys are texts is an object. -/
inductive Denotes (σ : Store) : Value → Json → Prop where
  | scalar (s : Scalar) : Denotes σ (.scalar s) (.leaf s)
  | list {place : Nat} {vs : List Value} {ts : List Json} :
    σ[place]? = some (.sequence .list vs) → vs.length = ts.length → (∀ p ∈ vs.zip ts, Denotes σ p.1 p.2) →
    Denotes σ (.object place) (.array ts)
  | dict {place : Nat} {es : List (Text × Value)} {ts : List Json} :
    σ[place]? = some (.mapping "dict" (es.map fun e => (.text e.1, e.2))) → es.length = ts.length →
    (∀ p ∈ es.zip ts, Denotes σ p.1.2 p.2) → Denotes σ (.object place) (.object ((es.map Prod.fst).zip ts))

variable {σ : Store} {schema : Schema}

/-- What a value denotes does not change when objects are added. -/
theorem Denotes.mono {σ' : Store} {v : Value} {j : Json} (h : Denotes σ v j) (hσ : Store.Extends σ σ') :
    Denotes σ' v j := by
  induction h with
  | scalar s => exact .scalar s
  | list hnode hlen _ ih => exact .list (hσ _ _ hnode) hlen ih
  | dict hnode hlen _ ih => exact .dict (hσ _ _ hnode) hlen ih

/-! ### Normal forms -/

/-- A value that denotes a tree spells it, with the scalars as values. -/
theorem Denotes.spells {v : Value} {j : Json} (h : Denotes σ v j) : Spells σ v (j.map Value.scalar) := by
  induction h with
  | scalar s =>
    rw [Tree.map]
    exact .leaf _
  | list hnode hlen _ ih =>
    rw [Tree.map]
    refine .list hnode (by simpa using hlen) fun p hp => ?_
    rw [List.zip_map_right, List.mem_map] at hp
    obtain ⟨q, hq, rfl⟩ := hp
    exact ih q hq
  | @dict place es ts hnode hlen _ ih =>
    have hentries : ((es.map Prod.fst).zip ts).map (fun e => (e.1, Tree.map Value.scalar e.2)) =
        (es.map Prod.fst).zip (ts.map (Tree.map Value.scalar)) := by
      rw [List.zip_map_right]
      rfl
    rw [Tree.map, hentries]
    refine .dict hnode (by simpa using hlen) fun p hp => ?_
    rw [List.zip_map_right, List.mem_map] at hp
    obtain ⟨q, hq, rfl⟩ := hp
    exact ih q hq

/-- The unfolding of a value that denotes a tree is the tree. -/
theorem Denotes.unfolds {v : Value} {j : Json} (h : Denotes σ v j) (hj : j.WellFormed) :
    Unfolds σ schema v (j.map Value.scalar) := by
  refine h.spells.unfolds (hj.distinct.map Value.scalar) fun a ha => ?_
  obtain ⟨s, -, rfl⟩ := ha.of_map
  exact .scalar s

end Value

namespace Store

/-! ### Loaded trees -/

/-- A tree can be loaded into any store. -/
def Loads (j : Json) : Prop := ∀ σ, Extends σ (load σ j).2 ∧ Value.Denotes (load σ j).2 (load σ j).1 j

theorem loadItems_denotes {ts : List Json} (h : ∀ t ∈ ts, Loads t) (σ : Store) :
    Extends σ (loadItems σ ts).2 ∧ List.Forall₂ (Value.Denotes (loadItems σ ts).2) (loadItems σ ts).1 ts := by
  induction ts generalizing σ with
  | nil => exact ⟨.refl σ, .nil⟩
  | cons t ts ih =>
    obtain ⟨hfirst, hv⟩ := h t List.mem_cons_self σ
    obtain ⟨hrest, hvs⟩ := ih (fun x hx => h x (List.mem_cons_of_mem _ hx)) (load σ t).2
    exact ⟨hfirst.trans hrest, .cons (hv.mono hrest) hvs⟩

theorem loadEntries_denotes {es : List (Text × Json)} (h : ∀ e ∈ es, Loads e.2) (σ : Store) :
    Extends σ (loadEntries σ es).2 ∧ ∃ vs : List Value,
      (loadEntries σ es).1 = ((es.map Prod.fst).zip vs).map (fun e => (.text e.1, e.2)) ∧
        List.Forall₂ (Value.Denotes (loadEntries σ es).2) vs (es.map Prod.snd) := by
  induction es generalizing σ with
  | nil => exact ⟨.refl σ, [], rfl, .nil⟩
  | cons e es ih =>
    obtain ⟨hfirst, hv⟩ := h e List.mem_cons_self σ
    obtain ⟨hrest, vs, hentries, hvs⟩ := ih (fun x hx => h x (List.mem_cons_of_mem _ hx)) (load σ e.2).2
    refine ⟨hfirst.trans hrest, (load σ e.2).1 :: vs, ?_, .cons (hv.mono hrest) hvs⟩
    exact congrArg ((.text e.1, (load σ e.2).1) :: ·) hentries

theorem loads_array {items : List Json} (h : ∀ t ∈ items, Loads t) : Loads (.array items) := by
  intro σ
  obtain ⟨hσ, hparts⟩ := loadItems_denotes h σ
  obtain ⟨hlen, hzip⟩ := List.forall₂_iff_zip.1 hparts
  have hpush := extends_push (loadItems σ items).2 (.sequence .list (loadItems σ items).1)
  exact ⟨hσ.trans hpush, .list (Array.getElem?_push_size) hlen fun p hp => (hzip hp).mono hpush⟩

theorem loads_object {entries : List (Text × Json)} (h : ∀ e ∈ entries, Loads e.2) : Loads (.object entries) := by
  intro σ
  obtain ⟨hσ, vs, hentries, hparts⟩ := loadEntries_denotes h σ
  obtain ⟨hlen, hzip⟩ := List.forall₂_iff_zip.1 hparts
  have hpush := extends_push (loadEntries σ entries).2 (.mapping "dict" (loadEntries σ entries).1)
  obtain ⟨hlen, htree, hnamed⟩ := Value.renamed_parts (by simpa using hlen)
  have hdict : Value.Denotes (load σ (.object entries)).2 (load σ (.object entries)).1
      (.object ((((entries.map Prod.fst).zip vs).map Prod.fst).zip (entries.map Prod.snd))) := by
    refine .dict ?_ hlen fun p hp => (hzip (hnamed p hp)).mono hpush
    rw [← hentries]
    exact Array.getElem?_push_size
  rw [htree] at hdict
  exact ⟨hσ.trans hpush, hdict⟩

/-- A loaded tree is denoted by its value. -/
theorem denotes_load (j : Json) : Loads j := by
  match j with
  | .leaf s => exact fun σ => ⟨.refl σ, .scalar s⟩
  | .array items => exact loads_array fun t _ => denotes_load t
  | .object entries => exact loads_object fun e _ => denotes_load e.2
termination_by sizeOf j
decreasing_by
  · have := List.sizeOf_lt_of_mem ‹_ ∈ items›
    simp only [Tree.array.sizeOf_spec]
    omega
  · obtain ⟨name, t⟩ := e
    have := List.sizeOf_lt_of_mem ‹_ ∈ entries›
    simp only [Prod.mk.sizeOf_spec, Tree.object.sizeOf_spec] at this ⊢
    omega

/-- Records that are loaded denote their objects. -/
theorem denotes_ofRecords (os : List JsonRecord) :
    List.Forall₂ (Value.Denotes (ofRecords os).2) (ofRecords os).1 (os.map .object) :=
  (loadItems_denotes (fun j _ => denotes_load j) #[]).2

end Store

end RecordPrint
