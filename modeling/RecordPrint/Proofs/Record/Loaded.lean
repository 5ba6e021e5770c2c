import RecordPrint.Proofs.Record.Cycles
import RecordPrint.Proofs.Record.Denotation
import RecordPrint.Proofs.Table.Keys

/-!
# Records that have been loaded

Values that denote trees, as all loaded records do, hold nothing that can go wrong while it is read.

* `Denotes.normalize_fault` — only a cycle would keep such a value from its normal form;
* `Denotes.cell_eq` — the cell of such a value is that of what it denotes;
* `rows_of_denotes` — so tables of loaded records are always made, and their cells are those of the records
  (`JsonRecord.cell`).
-/

namespace RecordPrint

open Relation (ReflTransGen)

variable {σ : Store} {schema : Schema}

namespace Value

/-! ### Normal forms -/

/-- What a value leads to that denotes a tree denotes a tree. -/
theorem Denotes.edge {v w : Value} {j : Json} (h : Denotes σ v j) (hedge : Edge σ schema v w) :
    ∃ j', Denotes σ w j' := by
  cases h with
  | scalar s => cases hedge
  | list hnode hlen hparts =>
    obtain ⟨_, hunfold⟩ := unfold_list schema hnode
    cases hedge with
    | part _ hunfold' hleads =>
      cases hunfold.symm.trans hunfold'
      obtain ⟨j', hj'⟩ := exists_zip_of_mem hlen hleads
      exact ⟨j', hparts _ hj'⟩
  | dict hnode hlen hparts =>
    obtain ⟨_, hunfold⟩ := unfold_dict schema hnode
    cases hedge with
    | part _ hunfold' hleads =>
      cases hunfold.symm.trans hunfold'
      obtain ⟨name, hmem⟩ := hleads
      obtain ⟨e, he, hentry⟩ := List.mem_map.1 hmem
      cases hentry
      obtain ⟨j', hj'⟩ := exists_zip_of_mem hlen he
      exact ⟨j', hparts _ hj'⟩

theorem Denotes.reaches {v w : Value} {j : Json} (h : Denotes σ v j) (hreach : Reaches σ schema v w) :
    ∃ j', Denotes σ w j' := by
  induction hreach with
  | refl => exact ⟨j, h⟩
  | tail _ hedge ih =>
    obtain ⟨j', hj'⟩ := ih
    exact hj'.edge hedge

/-- A value that denotes a tree keeps its promises to a walk. -/
theorem Denotes.steady {v : Value} {j : Json} (h : Denotes σ v j) : Steady σ schema v ∧ HasKeyTexts σ schema v := by
  cases h with
  | scalar s =>
    refine ⟨trivial, ?_⟩
    intro e he
    cases he
  | @list place vs ts hnode _ _ =>
    constructor
    · intro i hi
      rw [hnode] at hi
      cases hi
    · intro e he
      simp only [walkedEntries, hnode] at he
      cases he
  | @dict place es ts hnode _ _ =>
    constructor
    · intro i hi
      rw [hnode] at hi
      cases hi
    · intro e he
      simp only [walkedEntries, hnode] at he
      obtain ⟨p, -, rfl⟩ := List.mem_map.1 he
      exact ⟨p.1, rfl⟩

/-- Only a cycle would keep a value that denotes a tree from its normal form. -/
theorem Denotes.normalize_fault {v : Value} {j : Json} {e : Fault} (h : Denotes σ v j)
    (herror : v.normalize σ schema = .error e) : e = .circular := by
  refine (outcome_error ?_ herror).1
  intro w hw
  obtain ⟨j', hj'⟩ := h.reaches hw
  exact hj'.steady

/-- A loaded record denotes an object. -/
theorem denotes_of_mem_ofRecords {os : List JsonRecord} {v : Value} (h : v ∈ (Store.ofRecords os).1) :
    ∃ o, Denotes (Store.ofRecords os).2 v (.object o) := by
  obtain ⟨hlen, hzip⟩ := List.forall₂_iff_zip.1 (Store.denotes_ofRecords os)
  obtain ⟨j, hj⟩ := exists_zip_of_mem hlen h
  obtain ⟨o, -, rfl⟩ := List.mem_map.1 (List.of_mem_zip hj).2
  exact ⟨o, hzip hj⟩

end Value

/-! ### Cells -/

/-- The cell of what a JSON text denotes: that of a scalar. Arrays and objects have an empty one. -/
def Json.cell : Json → Text
  | .leaf s => s.cell
  | .array _ | .object _ => []

/-- The cell of a record under a name: empty if it has no entry of this name. -/
def JsonRecord.cell (o : JsonRecord) (name : Text) : Text := ((o.lookup name).map Json.cell).getD []

namespace Value

theorem Denotes.cell_eq {v : Value} {j : Json} (h : Denotes σ v j) : v.cell = .ok (Json.cell j) := by
  cases h with
  | scalar s => rfl
  | list => rfl
  | dict => rfl

/-- An entry of a mapping whose key is the name of an entry of a record, and whose value denotes the value there. -/
def DenotesEntry (σ : Store) (e : Value × Value) (p : Text × Json) : Prop := e.1 = .text p.1 ∧ Denotes σ e.2 p.2

/-- A value that denotes an object is a mapping with its entries in order. -/
theorem Denotes.isMapping {v : Value} {o : JsonRecord} (h : Denotes σ v (.object o)) (schema : Schema) :
    ∃ es, IsMapping σ schema v es ∧ List.Forall₂ (DenotesEntry σ) es o := by
  generalize hj : Tree.object o = j at h
  cases h with
  | scalar => cases hj
  | list => cases hj
  | @dict place es ts hnode hlen hparts =>
    cases hj
    refine ⟨es.map fun e => (.text e.1, e.2), ⟨by simp only [deref, entries?, hnode], ?_⟩, ?_⟩
    · intro e' he'
      obtain ⟨e, he, rfl⟩ := List.mem_map.1 he'
      obtain ⟨t, ht⟩ := exists_zip_of_mem hlen he
      intro (hmissing : e.2 = missing)
      have hdenotes : Denotes σ e.2 t := hparts _ ht
      rw [hmissing] at hdenotes
      cases hdenotes
    · have hvalues : List.Forall₂ (fun e t => Denotes σ e.2 t) es ts :=
        List.forall₂_iff_zip.2 ⟨hlen, @fun e t => hparts (e, t)⟩
      clear hnode hlen hparts
      induction hvalues with
      | nil => exact .nil
      | cons hfirst _ ih => exact .cons ⟨rfl, hfirst⟩ ih

end Value

namespace Layout

open Value (Denotes DenotesEntry underKey?)

variable {records : List Value} {os : List JsonRecord}

/-- The cell of what a mapping holds under a name is that of the record whose entries it has. -/
theorem heldCell_of_denotes {es : List (Value × Value)} {o : JsonRecord} (h : List.Forall₂ (DenotesEntry σ) es o)
    (name : Text) : heldCell (underKey? name es) = .ok (o.cell name) := by
  induction h with
  | nil => rfl
  | @cons e p es o hfirst hrest ih =>
    obtain ⟨hkey, hvalue⟩ := hfirst
    have hcontent : e.1.content? = some (.text name) ↔ p.1 = name := by
      rw [hkey]
      simp [Value.text, Value.content?]
    rw [Value.underKey?_cons, JsonRecord.cell, List.lookup_cons]
    by_cases hname : p.1 = name
    · rw [if_pos (hcontent.2 hname), hname, beq_self_eq_true]
      exact hvalue.cell_eq
    · rw [if_neg fun h => hname (hcontent.1 h), beq_eq_false_iff_ne.2 fun h => hname h.symm]
      exact ih

theorem row_of_denotes {v : Value} {o : JsonRecord} (h : Denotes σ v (.object o)) (fields : List Field) :
    row σ schema fields v = .ok (Csv.valuesOf (fields.map fun f => o.cell f.name)) := by
  obtain ⟨es, hmapping, hentries⟩ := h.isMapping schema
  have hcells : mappingCells fields es = .ok (fields.map fun f => o.cell f.name) :=
    mapM_eq_ok_map fun f _ => heldCell_of_denotes hentries f.name
  rw [row_of_mapping hmapping, hcells]
  rfl

/-- The columns of a table of records: those that are given, or else the names of the first record. -/
def columnsFor (fields : Option (List Field)) (os : List JsonRecord) : List Field :=
  fields.getD ((os.headD []).map fun e => .unlabelled e.1)

/-- The texts of a table with some columns: the headers, and under them the cells of each record. -/
def tableOf (columns : List Field) (os : List JsonRecord) : List (List Text) :=
  columns.map Field.header :: os.map fun o => columns.map fun f => o.cell f.name

theorem columns_of_denotes {key value : TypeExpr} {fields : Option (List Field)}
    (h : List.Forall₂ (Denotes σ) records (os.map .object)) :
    columns ⟨some (.mapOf key value), fields⟩ σ schema records = .ok (columnsFor fields os) := by
  cases fields with
  | some fields => rfl
  | none =>
    show firstKeys σ schema records = _
    rw [List.forall₂_map_right_iff] at h
    cases h with
    | nil => rfl
    | @cons v o _ _ hfirst _ =>
      obtain ⟨es, hmapping, hentries⟩ := hfirst.isMapping schema
      have hkeys : keyColumns σ schema es = .ok (o.map fun e => .unlabelled e.1) := by
        rw [keyColumns, mapM_eq_ok_iff, List.forall₂_map_right_iff]
        refine hentries.imp fun e p hentry => ?_
        rw [hentry.1]
        rfl
      rw [firstKeys, List.head?_cons, Option.bind_some, hmapping.entries]
      exact hkeys

/-- A table of records that have been loaded. -/
theorem rows_of_denotes {key value : TypeExpr} {fields : Option (List Field)}
    (h : List.Forall₂ (Denotes σ) records (os.map .object)) :
    rows ⟨some (.mapOf key value), fields⟩ σ schema records =
      .ok ((tableOf (columnsFor fields os) os).map Csv.valuesOf) := by
  have hsupplied : suppliedHeaders? ⟨some (.mapOf key value), fields⟩ σ schema records = none := by
    cases fields <;> rfl
  have hbody : records.mapM (row σ schema (columnsFor fields os)) =
      .ok (os.map fun o => Csv.valuesOf ((columnsFor fields os).map fun f => o.cell f.name)) := by
    rw [mapM_eq_ok_iff, List.forall₂_map_right_iff]
    rw [List.forall₂_map_right_iff] at h
    exact h.imp fun v o hv => row_of_denotes hv _
  rw [rows_of_columns hsupplied (columns_of_denotes h), hbody, tableOf, List.map_cons, List.map_map]
  rfl

end Layout

end RecordPrint
