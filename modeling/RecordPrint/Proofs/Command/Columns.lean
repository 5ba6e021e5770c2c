import RecordPrint.Proofs.Command.Files

/-!
# Choosing columns

A column option is the name of a column, and perhaps a label behind an equals sign. A table of read records with chosen
columns is made of the cells that the records have under these names.

* `exists_ofOptions_eq_error_iff_blank` — column options are refused exactly if one of them has nothing but blanks in
  front of its first equals sign;
* `ofOptions_specs` — the options of a choice of columns give the fields that are chosen;
* `selection_eq_projection` — so choosing columns is a projection: a chosen column holds the cells of the column of its
  name in the table with all columns of the first record, and a column that the first record does not have holds the
  cells of the records under its name.
-/

namespace RecordPrint

namespace Field

variable {spec : Text} {specs : List Text}

/-! ### Options that are refused -/

theorem exists_ofOption_eq_error_iff : (∃ f, ofOption spec = .error f) ↔ (spec.cut (.char '=')).1.isBlank = true := by
  rw [← Text.trim_eq_nil_iff]
  unfold ofOption
  dsimp only
  by_cases h : (spec.cut (.char '=')).1.trim = []
  · simp [h]
  · simp [h]

/-- Column options are refused exactly if one of them has nothing but blanks in front of its first equals sign. -/
theorem exists_ofOptions_eq_error_iff_blank :
    (∃ f, ofOptions specs = .error f) ↔ ∃ spec ∈ specs, (spec.cut (.char '=')).1.isBlank = true := by
  simp only [Rendering.exists_ofOptions_eq_error_iff, exists_ofOption_eq_error_iff]

end Field

/-! ### Options that are taken -/

/-- A choice of a column: a name that neither holds an equals sign nor begins or ends with a blank, and perhaps a
label. -/
structure Choice where
  name : Text
  label : Option Text
  trimmed : name.IsTrimmed
  plain : .char '=' ∉ name

namespace Choice

/-- The option that asks for a column. -/
def spec (c : Choice) : Text :=
  match c.label with
  | none => c.name
  | some label => c.name ++ .char '=' :: label

/-- The field that is chosen. -/
def field (c : Choice) : Field := ⟨c.name, c.label.map Text.trim⟩

/-- The header of a chosen column: the label without the blanks around it, or the name if nothing is left of it. -/
def header (c : Choice) : Text :=
  let label := (c.label.getD []).trim
  if label = [] then c.name else label

theorem header_field (c : Choice) : c.field.header = c.header := by
  obtain ⟨name, label, -, -⟩ := c
  cases label with
  | none => rfl
  | some label =>
    show Field.header ⟨name, some label.trim⟩ = if label.trim = [] then name else label.trim
    cases label.trim <;> rfl

theorem cut_spec (c : Choice) : c.spec.cut (.char '=') = (c.name, c.label) := by
  unfold spec
  cases c.label with
  | none => exact Text.cut_eq_self c.plain
  | some label => exact Text.cut_append c.plain label

theorem ofOption_spec (c : Choice) : Field.ofOption c.spec = .ok c.field := by
  unfold Field.ofOption
  rw [cut_spec]
  simp only [c.trimmed.trim_eq, if_neg c.trimmed.ne_nil]
  rfl

variable {choices : List Choice}

/-- The options of a choice of columns give the fields that are chosen, in their order. -/
theorem ofOptions_specs (hne : choices ≠ []) :
    Field.ofOptions (choices.map spec) = .ok (some (choices.map field)) := by
  have hfields : (choices.map spec).mapM Field.ofOption = .ok (choices.map field) := by
    rw [List.mapM_map]
    exact mapM_eq_ok_map fun c _ => c.ofOption_spec
  have hnonempty : choices.map field ≠ [] := fun h => hne (List.map_eq_nil_iff.1 h)
  rw [Field.ofOptions, hfields]
  exact congrArg Except.ok (if_neg hnonempty)

end Choice

/-! ### Tables with chosen columns -/

namespace Rendering

open Layout (heldCell)
open Value (IsMapping underKey?)

variable {r : Rendering} {choices : List Choice} {os : List JsonRecord}

/-- The names of the entries of the first record. -/
def firstNames (os : List JsonRecord) : List Text := (os.headD []).map Prod.fst

/-- The cells of records under some names. -/
def cellsUnder (names : List Text) (os : List JsonRecord) : List (List Text) := os.map fun o => names.map o.cell

theorem rows_unchosen (r : Rendering) (os : List JsonRecord) :
    (r.formatter none).layout.rows (Store.ofRecords os).2 [] (Store.ofRecords os).1 =
      .ok ((firstNames os :: cellsUnder (firstNames os) os).map Csv.valuesOf) := by
  have htable : Layout.tableOf (Layout.columnsFor none os) os = firstNames os :: cellsUnder (firstNames os) os := by
    simp only [Layout.tableOf, Layout.columnsFor, firstNames, cellsUnder, Option.getD_none, List.map_map]
    rfl
  rw [← htable]
  exact Layout.rows_of_denotes (Store.denotes_ofRecords os)

theorem rows_chosen (r : Rendering) (choices : List Choice) (os : List JsonRecord) :
    (r.formatter (some (choices.map Choice.field))).layout.rows (Store.ofRecords os).2 [] (Store.ofRecords os).1 =
      .ok ((choices.map Choice.header :: cellsUnder (choices.map Choice.name) os).map Csv.valuesOf) := by
  have htable : Layout.tableOf (Layout.columnsFor (some (choices.map Choice.field)) os) os =
      choices.map Choice.header :: cellsUnder (choices.map Choice.name) os := by
    simp only [Layout.tableOf, Layout.columnsFor, cellsUnder, Option.getD_some, List.map_map]
    exact congrArg (· :: _) (List.map_congr_left fun c _ => c.header_field)
  rw [← htable]
  exact Layout.rows_of_denotes (Store.denotes_ofRecords os)

/-- The cells of loaded records are those of the values that they hold. -/
theorem cells_ofRecords (os : List JsonRecord) :
    List.Forall₂ (fun v o => ∃ es, IsMapping (Store.ofRecords os).2 [] v es ∧
      ∀ name, heldCell (underKey? name es) = .ok (JsonRecord.cell o name)) (Store.ofRecords os).1 os := by
  refine (List.forall₂_map_right_iff.1 (Store.denotes_ofRecords os)).imp fun v o hv => ?_
  obtain ⟨es, hmapping, hentries⟩ := hv.isMapping []
  exact ⟨es, hmapping, Layout.heldCell_of_denotes hentries⟩

/-- Two columns of one name hold the same cells. -/
theorem getElem?_cellsUnder {names names' : List Text} {i j k : Nat} {name : Text} (hi : names[i]? = some name)
    (hj : names'[j]? = some name) :
    (cellsUnder names os)[k]?.bind (·[i]?) = (cellsUnder names' os)[k]?.bind (·[j]?) := by
  simp only [cellsUnder, List.getElem?_map]
  cases os[k]? with
  | none => rfl
  | some o => simp [hi, hj]

/-- Choosing columns is a projection. Column options are refused exactly if one of them has nothing but blanks in front
of its first equals sign. The options of a choice of columns give a table with their labels without the blanks around
them, or their names, as headers. It has one row for each record in order, with the cells of the record under the chosen
names: those of the values that the record holds, and empty ones where it holds none. So a chosen column whose name is
one of the first record holds what the column of this name holds in the table without a choice. -/
theorem selection_eq_projection (csv : (r.formatter none).format? = some .csv) (hne : choices ≠ [])
    (hcolumns : r.columns = choices.map Choice.spec) (os : List JsonRecord) :
    (∀ specs, (∃ f, Field.ofOptions specs = .error f) ↔ ∃ spec ∈ specs, (spec.cut (.char '=')).1.isBlank = true) ∧
    ∃ fields whole chosen, Field.ofOptions r.columns = .ok (some fields) ∧
      (r.formatter none).layout.rows (Store.ofRecords os).2 [] (Store.ofRecords os).1 =
        .ok ((firstNames os :: whole).map Csv.valuesOf) ∧
      (r.formatter (some fields)).layout.rows (Store.ofRecords os).2 [] (Store.ofRecords os).1 =
        .ok ((choices.map Choice.header :: chosen).map Csv.valuesOf) ∧
      (r.formatter (some fields)).write (Store.ofRecords os).2 [] (Store.ofRecords os).1 .unlimited =
        (⟨(choices.map Choice.header :: chosen).map Csv.lineOf, none, false⟩, none) ∧
      chosen = os.map (fun o => choices.map fun c => o.cell c.name) ∧
      List.Forall₂ (fun v o => ∃ es, IsMapping (Store.ofRecords os).2 [] v es ∧
        ∀ name, heldCell (underKey? name es) = .ok (JsonRecord.cell o name)) (Store.ofRecords os).1 os ∧
      ∀ (i j : Nat) (c : Choice), choices[j]? = some c → (firstNames os)[i]? = some c.name →
        ∀ k : Nat, chosen[k]?.bind (·[j]?) = whole[k]?.bind (·[i]?) := by
  refine ⟨fun specs => Field.exists_ofOptions_eq_error_iff_blank, choices.map Choice.field,
    cellsUnder (firstNames os) os, cellsUnder (choices.map Choice.name) os, ?_, rows_unchosen r os,
    rows_chosen r choices os, Csv.write_table csv (rows_chosen r choices os), ?_, cells_ofRecords os, ?_⟩
  · rw [hcolumns]
    exact Choice.ofOptions_specs hne
  · refine List.map_congr_left fun o _ => ?_
    rw [List.map_map]
    rfl
  · intro i j c hj hi k
    have hchosen : (choices.map Choice.name)[j]? = some c.name := by
      rw [List.getElem?_map, hj, Option.map_some]
    exact getElem?_cellsUnder hchosen hi

/-- The column `b` under a label, the column `c`, and the column `b` once more. -/
def lendingChoices : List Choice :=
  [⟨"b", some " B ", ⟨⟨_, rfl, by decide⟩, ⟨_, rfl, by decide⟩⟩, by decide⟩,
    ⟨"c", none, ⟨⟨_, rfl, by decide⟩, ⟨_, rfl, by decide⟩⟩, by decide⟩,
    ⟨"b", some " ", ⟨⟨_, rfl, by decide⟩, ⟨_, rfl, by decide⟩⟩, by decide⟩]

/-- Two records, of which only the second one has an entry `c`. -/
def lendings : List JsonRecord := [[("a", .leaf (.int 1)), ("b", .leaf (.text "x"))], [("c", .leaf (.bool true))]]

/-- The rendering of these columns. -/
def lendingTable : Rendering := ⟨standardInput, "csv", [], ["b= B ", "c", "b= "]⟩

theorem selection_eq_projection_lendings :
    (lendingTable.formatter none).format? = some .csv ∧ lendingChoices ≠ [] ∧
      lendingTable.columns = lendingChoices.map Choice.spec ∧
      ∃ fields, Field.ofOptions lendingTable.columns = .ok (some fields) ∧
        (lendingTable.formatter (some fields)).write (Store.ofRecords lendings).2 [] (Store.ofRecords lendings).1
          .unlimited = (⟨["B,c,b\n", "x,,x\n", ",true,\n"], none, false⟩, none) := by
  have csv : (lendingTable.formatter none).format? = some .csv := by decide
  have hne : lendingChoices ≠ [] := List.cons_ne_nil _ _
  have hcolumns : lendingTable.columns = lendingChoices.map Choice.spec := rfl
  obtain ⟨-, fields, whole, chosen, hfields, -, -, hwrite, hchosen, -⟩ :=
    selection_eq_projection csv hne hcolumns lendings
  refine ⟨csv, hne, hcolumns, fields, hfields, ?_⟩
  have hlines : (lendingChoices.map Choice.header :: chosen).map Csv.lineOf =
      [("B,c,b\n" : Text), "x,,x\n", ",true,\n"] := by
    rw [hchosen]
    decide
  rw [hwrite, hlines]

end Rendering

end RecordPrint
