import RecordPrint.Proofs.Document.Encoding
import RecordPrint.Proofs.Table.Decoding

/-!
# Keys as columns

A table without given columns, of mappings whose type declares no fields, has the displayed keys of the first mapping as
its columns. The cell of a column is then looked for under the name of the column, which is a text, and not under the
key that has given it.

* `rows_of_mappings` — a table of mappings: its cells are those of what the mappings hold under the names of the
  columns;
* `sameKey_text_iff` — a key is the same as a text exactly if it is that text itself;
* `cells_by_key_iff` — so the cells below a key are those of the key exactly if the key is the text that it displays.
  Below a number, a truth value or null they are those of another key, or empty.
-/

namespace RecordPrint

variable {σ : Store} {schema : Schema}

namespace Value

/-- A value is a mapping with some entries, none of which holds the mark of a value that does not exist. -/
structure IsMapping (σ : Store) (schema : Schema) (v : Value) (es : List (Value × Value)) : Prop where
  entries : v.deref.entries? σ schema = some es
  present : ∀ e ∈ es, e.2 ≠ missing

/-- What a mapping holds under a key. -/
def underSame? (σ : Store) (key : Value) (es : List (Value × Value)) : Option Value :=
  (es.find? fun e => e.1 = key || sameKey σ σ.size e.1 key).map Prod.snd

/-! ### Keys that are texts -/

theorem Scalar.sameKey_text_iff {s : Scalar} {t : Text} : s.sameKey (.text t) = true ↔ s = .text t := by
  -- a text is worth no number
  have hsame : s.sameKey (.text t) = decide (s = .text t) := by
    cases s with
    | float x => cases x <;> rfl
    | null | bool | int | text => rfl
  rw [hsame, decide_eq_true_eq]

theorem items?_of_content {v : Value} {s : Scalar} (h : v.content? = some s) : v.items? σ = none := by
  cases v with
  | object place => cases h
  | _ => rfl

/-- A value is the same key as a text exactly if it is that text, however it is displayed. -/
theorem sameBy_text_iff {same : Value → Value → Bool} {v key : Value} {t : Text}
    (hkey : key.content? = some (.text t)) : sameBy σ same v key = true ↔ v.content? = some (.text t) := by
  unfold sameBy
  split
  -- references, paths and times of day are no texts
  · cases hkey
  · cases hkey
  · cases hkey
  · rw [hkey, moment?_of_content hkey, items?_of_content hkey]
    cases hv : v.content? with
    | none =>
      have hne : v ≠ key := by
        rintro rfl
        rw [hv] at hkey
        cases hkey
      cases v.moment? <;> cases v.items? σ <;> simp [hne]
    | some s =>
      have hsame : (v.hasIdentity && decide (v = key)) = true → s = .text t := by
        intro h
        obtain ⟨-, heq⟩ := Bool.and_eq_true_iff.1 h
        rw [of_decide_eq_true heq, hkey] at hv
        exact (Option.some.inj hv).symm
      simp only [Bool.or_eq_true, Scalar.sameKey_text_iff, Option.some.injEq]
      exact ⟨fun h => h.elim hsame id, .inr⟩

theorem sameKey_text_iff {depth : Nat} {v key : Value} {t : Text} (hkey : key.content? = some (.text t)) :
    sameKey σ depth v key = true ↔ v.content? = some (.text t) := by
  cases depth with
  | zero => exact sameBy_text_iff hkey
  | succ depth => exact sameBy_text_iff hkey

/-- Under a key that is a text a mapping holds what it holds under that text. -/
theorem underSame?_text {key : Value} {t : Text} (hkey : key.content? = some (.text t)) (es : List (Value × Value)) :
    underSame? σ key es = underKey? t es := by
  unfold underSame? underKey?
  congr 2
  funext e
  rw [Bool.eq_iff_iff, Bool.or_eq_true, decide_eq_true_eq, decide_eq_true_eq, sameKey_text_iff hkey]
  constructor
  · rintro (rfl | h)
    · exact hkey
    · exact h
  · exact .inr

theorem underKey?_cons (name : Text) (e : Value × Value) (es : List (Value × Value)) :
    underKey? name (e :: es) = if e.1.content? = some (.text name) then some e.2 else underKey? name es := by
  unfold underKey?
  rw [List.find?_cons]
  by_cases h : e.1.content? = some (.text name) <;> simp [h]

theorem underKey?_eq_none {name : Text} {es : List (Value × Value)} (h : ∀ e ∈ es, e.1.content? ≠ some (.text name)) :
    underKey? name es = none := by
  rw [underKey?, Option.map_eq_none_iff, List.find?_eq_none]
  intro e he
  simpa using h e he

end Value

namespace Layout

open Value (IsMapping underKey? underSame?)

variable {layout : Layout} {records : List Value} {fields : List Field}

/-! ### Tables of mappings -/

/-- The cell of what a mapping may hold: empty if it does not. -/
def heldCell : Option Value → Except Fault Text
  | none => .ok []
  | some v => v.cell

theorem cellOf_of_mapping {r : Value} {es : List (Value × Value)} (h : IsMapping σ schema r es) (f : Field) :
    cellOf σ schema r.deref f = heldCell (underKey? f.name es) := by
  have hfield : r.deref.field σ schema f.name = .ok ((underKey? f.name es).getD .missing) := by
    simp only [Value.field, h.entries]
  have hcell : cellOf σ schema r.deref f =
      (let v := (underKey? f.name es).getD .missing
      if v = .missing then .ok [] else v.cell) := by
    rw [cellOf, hfield]
    rfl
  rw [hcell]
  cases hkey : underKey? f.name es with
  | none => rfl
  | some v =>
    obtain ⟨e, he, rfl⟩ := Option.map_eq_some_iff.1 hkey
    exact if_neg (h.present e (List.mem_of_find?_eq_some he))

/-- The cells of a mapping in a table with some columns. -/
def mappingCells (fields : List Field) (es : List (Value × Value)) : Except Fault (List Text) :=
  fields.mapM fun f => heldCell (underKey? f.name es)

theorem row_of_mapping {r : Value} {es : List (Value × Value)} (h : IsMapping σ schema r es) :
    row σ schema fields r = (mappingCells fields es).map Csv.valuesOf := by
  rw [row, mappingCells, mapM_congr_left fun f _ => cellOf_of_mapping h f]
  rfl

/-- A table of mappings: the headers of its columns over the cells of each mapping. -/
theorem rows_of_mappings {mappings : List (List (Value × Value))}
    (hsupplied : layout.suppliedHeaders? σ schema records = none)
    (hcolumns : layout.columns σ schema records = .ok fields)
    (hrecords : List.Forall₂ (IsMapping σ schema) records mappings) :
    layout.rows σ schema records =
      (mappings.mapM (mappingCells fields)).map fun body => (fields.map Field.header :: body).map Csv.valuesOf := by
  rw [rows_of_columns hsupplied hcolumns, mapM_congr hrecords fun r es h => row_of_mapping h, mapM_map_result]
  cases mappings.mapM (mappingCells fields) <;> rfl

/-! ### Columns that keys give -/

/-- The cells of a mapping under some names. -/
def cellsByName (names : List Text) (es : List (Value × Value)) : Except Fault (List Text) :=
  names.mapM fun name => heldCell (underKey? name es)

theorem mappingCells_unlabelled (names : List Text) : mappingCells (names.map .unlabelled) = cellsByName names := by
  funext es
  rw [mappingCells, cellsByName, List.mapM_map]
  rfl

theorem map_header_unlabelled (names : List Text) : (names.map Field.unlabelled).map Field.header = names := by
  rw [List.map_map]
  exact List.map_id names

/-- Of a type that declares no fields the displayed keys of the first mapping are the columns. -/
theorem columns_of_keys {first : Value} {rest : List Value} {keys : List (Value × Value)} {names : List Text}
    (hfields : schema.describe (first.deref.recordType σ) = []) (hkeys : first.deref.entries? σ schema = some keys)
    (hnames : keys.mapM (fun e => e.1.display σ schema) = .ok names) :
    columns ⟨none, none⟩ σ schema (first :: rest) = .ok (names.map .unlabelled) := by
  have hcolumns : columns ⟨none, none⟩ σ schema (first :: rest) = keyColumns σ schema keys := by
    simp only [columns, rowType, firstKeys, List.head?_cons, Option.map_some, Option.getD_some, Option.bind_some,
      hfields, hkeys]
  rw [hcolumns, keyColumns, mapM_map_result, hnames]
  rfl

theorem suppliedHeaders?_of_first {first : Value} {rest : List Value}
    (hcells : schema.isTabular (first.deref.recordType σ) = false) :
    suppliedHeaders? ⟨none, none⟩ σ schema (first :: rest) = none := by
  simp only [suppliedHeaders?, rowType, List.head?_cons, Option.map_some]
  split
  · rename_i name htype
    rw [Option.some.inj htype] at hcells
    exact Option.not_isSome_iff_eq_none.1 (Bool.eq_false_iff.1 hcells)
  · rfl

/-- The cells under the name of a column are those of a key exactly if the key is the text that names the column. -/
theorem cell_by_name_iff {key : Value} {name : Text} :
    (∀ es, heldCell (underKey? name es) = heldCell (underSame? σ key es)) ↔ key.content? = some (.text name) := by
  constructor
  · intro h
    by_contra hkey
    -- a mapping that holds a text under this key and nothing else has an empty cell under the name
    have hname : underKey? name [(key, .text "a")] = none := by
      refine Value.underKey?_eq_none ?_
      intro e he
      rw [List.mem_singleton.1 he]
      exact hkey
    have hsame : underSame? σ key [(key, .text "a")] = some (.text "a") := by
      simp [underSame?]
    have hcell := h [(key, .text "a")]
    rw [hname, hsame] at hcell
    cases hcell
  · intro hkey es
    rw [Value.underSame?_text hkey]

/-- Below keys that are the texts that they display, a mapping has the cells of what it holds under these keys. -/
theorem cellsByName_of_texts {keys : List (Value × Value)} {names : List Text}
    (h : List.Forall₂ (fun e name => e.1.content? = some (.text name)) keys names) (es : List (Value × Value)) :
    cellsByName names es = keys.mapM fun e => heldCell (underSame? σ e.1 es) := by
  refine (mapM_congr h fun e name hkey => ?_).symm
  rw [cell_by_name_iff.2 hkey]

end Layout

namespace Formatter

open Value (IsMapping underKey? underSame?)
open Layout (heldCell cellsByName)

/-- A table without a record type and without given columns, of mappings the first of which is of a type that declares
no fields and supplies no cells: its header is the displayed keys of the first mapping in order, and its cells are those
of what each mapping holds under these names. These are the cells of the keys themselves exactly for keys that are the
text that they display, so that a table whose keys are all of this kind holds what the mappings do. Below any other key
a mapping has an empty cell, whatever it holds under that key, unless the name is another one of its keys. -/
theorem cells_by_key_iff {f : Formatter} {first : Value} {rest : List Value} {keys : List (Value × Value)}
    {mappings : List (List (Value × Value))} {names : List Text} (csv : f.format? = some .csv)
    (hlayout : f.layout = ⟨none, none⟩) (hfields : schema.describe (first.deref.recordType σ) = [])
    (hcells : schema.isTabular (first.deref.recordType σ) = false)
    (hrecords : List.Forall₂ (IsMapping σ schema) (first :: rest) (keys :: mappings))
    (hnames : keys.mapM (fun e => e.1.display σ schema) = .ok names) :
    f.layout.rows σ schema (first :: rest) =
      ((keys :: mappings).mapM (cellsByName names)).map (fun body => (names :: body).map Csv.valuesOf) ∧
    (∀ body, (keys :: mappings).mapM (cellsByName names) = .ok body →
      f.write σ schema (first :: rest) .unlimited = (⟨(names :: body).map Csv.lineOf, none, false⟩, none)) ∧
    (List.Forall₂ (fun e name => e.1.content? = some (.text name)) keys names → ∀ es : List (Value × Value),
      cellsByName names es = keys.mapM fun e => heldCell (underSame? σ e.1 es)) ∧
    List.Forall₂ (fun (e : Value × Value) name =>
      ((∀ es, heldCell (underKey? name es) = heldCell (underSame? σ e.1 es)) ↔ e.1.content? = some (.text name)) ∧
      ∀ es : List (Value × Value), (∀ other ∈ es, other.1.content? ≠ some (.text name)) →
        heldCell (underKey? name es) = .ok []) keys names := by
  have hkeys := (List.forall₂_cons.1 hrecords).1.entries
  have hrows : f.layout.rows σ schema (first :: rest) =
      ((keys :: mappings).mapM (cellsByName names)).map (fun body => (names :: body).map Csv.valuesOf) := by
    have hcolumns : Layout.columns ⟨none, none⟩ σ schema (first :: rest) = .ok (names.map .unlabelled) :=
      Layout.columns_of_keys hfields hkeys hnames
    rw [hlayout, Layout.rows_of_mappings (Layout.suppliedHeaders?_of_first hcells) hcolumns hrecords,
      Layout.mappingCells_unlabelled, Layout.map_header_unlabelled]
  refine ⟨hrows, ?_, Layout.cellsByName_of_texts, ?_⟩
  · intro body hbody
    rw [hbody] at hrows
    exact Csv.write_table csv hrows
  · refine (mapM_eq_ok_iff.1 hnames).imp fun e name _ => ⟨Layout.cell_by_name_iff, fun es hnone => ?_⟩
    rw [Value.underKey?_eq_none hnone]
    rfl

/-- A mapping whose key is a number. -/
def numberedCells : Store := #[.mapping "dict" [(.int 1, .text "a")]]

theorem cells_by_key_iff_numberedCells :
    (⟨some "csv", none, none⟩ : Formatter).format? = some .csv ∧
      Schema.describe [] ((Value.object 0).deref.recordType numberedCells) = [] ∧
      Schema.isTabular [] ((Value.object 0).deref.recordType numberedCells) = false ∧
      List.Forall₂ (IsMapping numberedCells []) [.object 0] [[(.int 1, .text "a")]] ∧
      [((.int 1, .text "a") : Value × Value)].mapM (fun e => e.1.display numberedCells []) = .ok ["1"] ∧
      heldCell (underSame? numberedCells (.int 1) [(.int 1, .text "a")]) = .ok "a" ∧
      (⟨some "csv", none, none⟩ : Formatter).write numberedCells [] [.object 0] .unlimited =
        (⟨["1\n", "\n"], none, false⟩, none) := by
  have csv : (⟨some "csv", none, none⟩ : Formatter).format? = some .csv := by decide
  have hfields : Schema.describe [] ((Value.object 0).deref.recordType numberedCells) = [] := rfl
  have hcells : Schema.isTabular [] ((Value.object 0).deref.recordType numberedCells) = false := rfl
  have hrecords : List.Forall₂ (IsMapping numberedCells []) [.object 0] [[(.int 1, .text "a")]] := by
    refine .cons ⟨rfl, ?_⟩ .nil
    intro e he
    rw [List.mem_singleton.1 he]
    exact Value.noConfusion
  have hnames : [((.int 1, .text "a") : Value × Value)].mapM (fun e => e.1.display numberedCells []) = .ok ["1"] := rfl
  obtain ⟨-, hwrite, -, hkeys⟩ := cells_by_key_iff csv rfl hfields hcells hrecords hnames
  have hempty : heldCell (underKey? "1" [(.int 1, .text "a")]) = .ok [] := by
    refine (List.forall₂_cons.1 hkeys).1.2 _ ?_
    intro other hother
    rw [List.mem_singleton.1 hother]
    decide
  have hbody : [[((.int 1, .text "a") : Value × Value)]].mapM (cellsByName ["1"]) = .ok [[[]]] := by
    rw [mapM_eq_ok_iff, List.forall₂_cons, cellsByName, mapM_eq_ok_iff]
    exact ⟨.cons hempty .nil, .nil⟩
  exact ⟨csv, hfields, hcells, hrecords, hnames, rfl, hwrite _ hbody⟩

end Formatter

end RecordPrint
