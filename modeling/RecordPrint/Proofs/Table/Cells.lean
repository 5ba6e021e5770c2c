import RecordPrint.Proofs.Table.Headers
import RecordPrint.Proofs.Time.Zones

/-!
# Values without a cell

* `Value.CellFault` — the values that have no cell: finite numbers that are formatted in a way of their own which fails,
  or that are members of enumerations and go by their names, and timestamps whose zone fails;
* `Mixin.form?_eq_error_iff` — when a member that is a number cannot be formatted;
* `Value.cell_eq_error_iff` — making a cell fails for exactly these values;
* `cellOf_eq_error_iff` — the cell of a field fails if reading the field does, or if it holds such a value;
* `cells_fail_iff` — so a table of described columns is written unless one of its fields does that.
-/

namespace RecordPrint

/-- What keeps a value from having a cell. -/
inductive Value.CellFault : Value → Fault → Prop
  /-- A finite number of a refined type which fails to format it. -/
  | refined {x : Finite64} {shown : Text} {e : Fault} :
    CellFault (.refined (.float (.finite x)) shown (some (.error e))) e
  /-- A member of an enumeration that is a finite number besides and fails to be formatted by the enumeration. -/
  | format {enumeration name : Text} {shown : Bool} {content : Value} {x : Finite64} {e : Fault} :
    content.content? = some (.float (.finite x)) →
    CellFault (.member enumeration name (.real shown (some (.error e))) content) e
  /-- A member of an enumeration that is a finite number besides and goes by its name. -/
  | named {enumeration name : Text} {mixin : Mixin} {content : Value} {x : Finite64} :
    (Value.member enumeration name mixin content).content? = some (.float (.finite x)) → mixin.shown = false →
    (∀ form, mixin ≠ .real false (some form)) → CellFault (.member enumeration name mixin content) .noFixedPoint
  /-- A timestamp, which may be a member of an enumeration too, whose zone fails. -/
  | zone {v : Value} {t : Timestamp} {z : Zone} {e : Fault} :
    v.moment? = some t → t.zone = some z → z.Failing e → CellFault v e

/-! ### Cells -/

/-- Formatting a member that is a number fails with what its enumeration comes to, or because the member goes by its
name. -/
theorem Mixin.form?_eq_error_iff {mixin : Mixin} {e : Fault} : mixin.form? = some (.error e) ↔
    (∃ shown, mixin = .real shown (some (.error e))) ∨
      mixin.shown = false ∧ (∀ form, mixin ≠ .real false (some form)) ∧ e = .noFixedPoint := by
  rcases mixin with _ | shown | shown | ⟨shown, _ | form⟩ | shown
  case none => simp [form?, Mixin.shown, eq_comm]
  case real.some =>
    constructor
    · rintro ⟨⟩
      exact .inl ⟨shown, rfl⟩
    · rintro (⟨_, ⟨⟩⟩ | ⟨hshown, hown, -⟩)
      · rfl
      · cases hshown
        exact absurd rfl (hown form)
  all_goals cases shown <;> simp [form?, Mixin.shown, eq_comm]

namespace Value

variable {v : Value} {e : Fault}

theorem form?_of_member {enumeration name : Text} {mixin : Mixin} {x : Finite64}
    (h : v.content? = some (.float (.finite x))) : (member enumeration name mixin v).form? = mixin.form? := by
  rw [form?, h]

/-- A number has no cell where formatting it fails. -/
theorem cellFault_of_form {s : Scalar} (hcontent : v.content? = some s) (hform : v.form? = some (.error e)) :
    v.CellFault e := by
  cases v with
  | scalar | timestamp | date | clock | path | ref | object | shape | missing | foreign => cases hform
  | refined s shown form =>
    unfold form? at hform
    split at hform
    · rename_i hvalue
      cases hvalue
      rw [hform]
      exact .refined
    · rename_i hvalue
      cases hvalue
    · cases hform
  | member enumeration name mixin content =>
    rw [form?] at hform
    split at hform
    · rename_i x hreal
      rcases Mixin.form?_eq_error_iff.1 hform with ⟨shown, rfl⟩ | ⟨hshown, hown, rfl⟩
      · exact .format hreal
      · rw [content?_of_member hcontent] at hreal
        rw [hreal] at hcontent
        exact .named hcontent hshown hown
    · cases hform

/-- Making a cell fails for the values that have none, and for no other ones. -/
theorem cell_eq_error_iff : v.cell = .error e ↔ v.CellFault e := by
  constructor
  · intro h
    cases hcontent : v.content? with
    | some s =>
      -- a scalar has its cell unless formatting it comes to something else
      refine cellFault_of_form hcontent ?_
      rw [cell_of_content hcontent] at h
      cases hform : v.form? with
      | none =>
        rw [hform] at h
        cases h
      | some form =>
        rw [hform, Option.getD_some] at h
        rw [h]
    | none =>
      cases hmoment : v.moment? with
      | some t =>
        rw [cell_of_moment hmoment] at h
        obtain ⟨z, hzone, hfailing⟩ := Timestamp.long_eq_error_iff.1 h
        exact .zone hmoment hzone hfailing
      | none =>
        unfold cell at h
        rw [hcontent, hmoment] at h
        cases v <;> cases h
  · intro h
    cases h with
    | refined => rfl
    | @format enumeration name shown content _ _ hreal =>
      have hcontent : (member enumeration name (.real shown (some (.error e))) content).content? = _ := hreal
      rw [cell_of_content hcontent, form?_of_member hreal]
      rfl
    | @named _ _ mixin _ _ hcontent hshown hown =>
      rw [cell_of_content hcontent, form?_of_member (content?_of_member hcontent),
        Mixin.form?_eq_error_iff.2 (.inr ⟨hshown, hown, rfl⟩), Option.getD_some]
    | zone hmoment hzone hfailing =>
      rw [cell_of_moment hmoment]
      exact Timestamp.long_eq_error_iff.2 ⟨_, hzone, hfailing⟩

theorem exists_cell_iff {v : Value} : (∃ t, v.cell = .ok t) ↔ ∀ e, ¬ v.CellFault e := by
  simp only [← cell_eq_error_iff]
  cases v.cell with
  | error e => simp
  | ok t => simp

end Value

/-! ### Tables -/

namespace Layout

variable {σ : Store} {schema : Schema} {layout : Layout} {records : List Value} {fields : List Field}

/-- What keeps the field of a record from having a cell: it cannot be read, or it holds a value without a cell. -/
def FieldFault (σ : Store) (schema : Schema) (record : Value) (f : Field) (e : Fault) : Prop :=
  record.field σ schema f.name = .error e ∨ ∃ v, record.field σ schema f.name = .ok v ∧ v.CellFault e

theorem cellOf_eq_error_iff {record : Value} {f : Field} {e : Fault} :
    cellOf σ schema record f = .error e ↔ FieldFault σ schema record f e := by
  unfold FieldFault
  cases hfield : record.field σ schema f.name with
  | error e' =>
    have hcell : cellOf σ schema record f = .error e' := by
      rw [cellOf, hfield]
      rfl
    simp [hcell]
  | ok v =>
    have hcell : cellOf σ schema record f = if v = .missing then .ok [] else v.cell := by
      rw [cellOf, hfield]
      rfl
    rw [hcell]
    by_cases hv : v = .missing
    · -- a field that a record does not have is empty, and the mark itself is no value without a cell
      have hnone : ¬ v.CellFault e := by
        rw [hv, ← Value.cell_eq_error_iff]
        rintro ⟨⟩
      rw [if_pos hv]
      simp [hnone]
    · rw [if_neg hv, Value.cell_eq_error_iff]
      simp

theorem not_fieldFault_iff {record : Value} {f : Field} : (∀ e, ¬ FieldFault σ schema record f e) ↔
    ∃ v, record.field σ schema f.name = .ok v ∧ ∀ e, ¬ v.CellFault e := by
  unfold FieldFault
  cases record.field σ schema f.name with
  | error e => simp
  | ok v => simp

/-- The table of described columns fails with the fault of a field of a record, if one has any. -/
theorem exists_rows_eq_error_iff (hsupplied : layout.suppliedHeaders? σ schema records = none)
    (hcolumns : layout.columns σ schema records = .ok fields) :
    (∃ e, layout.rows σ schema records = .error e) ↔
      ∃ r ∈ records, ∃ c ∈ fields, ∃ e, FieldFault σ schema r.deref c e := by
  simp only [rows_of_columns hsupplied hcolumns, map_eq_error_iff, exists_mapM_eq_error_iff, row, cellOf_eq_error_iff]

theorem fieldFault_of_rows {e : Fault} (hsupplied : layout.suppliedHeaders? σ schema records = none)
    (hcolumns : layout.columns σ schema records = .ok fields) (h : layout.rows σ schema records = .error e) :
    ∃ r ∈ records, ∃ c ∈ fields, FieldFault σ schema r.deref c e := by
  rw [rows_of_columns hsupplied hcolumns, map_eq_error_iff] at h
  obtain ⟨r, hr, hrow⟩ := exists_of_mapM_eq_error h
  obtain ⟨c, hc, hcell⟩ := exists_of_mapM_eq_error (map_eq_error_iff.1 hrow)
  exact ⟨r, hr, c, hc, cellOf_eq_error_iff.1 hcell⟩

end Layout

namespace Formatter

open Layout (FieldFault)

variable {f : Formatter} {σ : Store} {schema : Schema} {records : List Value} {fields : List Field}

/-- A table of described columns is written to a sink that takes everything exactly if it can be made. -/
theorem write_described (csv : f.format? = some .csv)
    (hsupplied : f.layout.suppliedHeaders? σ schema records = none) :
    (f.write σ schema records .unlimited).2 =
      match f.layout.rows σ schema records with
      | .ok _ => none
      | .error e => some (.record e) := by
  have htexts : f.SuppliesTexts σ schema records := by
    intro _ hsome
    rw [hsupplied] at hsome
    cases hsome
  rw [write_eq htexts]
  simp only [encoded, csv]
  cases f.layout.rows σ schema records with
  | error e => rfl
  | ok table => simp only [Except.map, Sink.putAll_unfailing (s := .unlimited) ⟨rfl, rfl⟩, Option.map_none]

theorem write_eq_none_iff (csv : f.format? = some .csv)
    (hsupplied : f.layout.suppliedHeaders? σ schema records = none)
    (hcolumns : f.layout.columns σ schema records = .ok fields) :
    (f.write σ schema records .unlimited).2 = none ↔
      ∀ r ∈ records, ∀ c ∈ fields, ∃ v, r.deref.field σ schema c.name = .ok v ∧ ∀ e, ¬ v.CellFault e := by
  have hmade : (f.write σ schema records .unlimited).2 = none ↔ ¬ ∃ e, f.layout.rows σ schema records = .error e := by
    rw [write_described csv hsupplied]
    cases f.layout.rows σ schema records <;> simp
  rw [hmade, Layout.exists_rows_eq_error_iff hsupplied hcolumns]
  simp only [not_exists, not_and, ← Layout.not_fieldFault_iff]

theorem fieldFault_of_write {fault : WriteFault} (csv : f.format? = some .csv)
    (hsupplied : f.layout.suppliedHeaders? σ schema records = none)
    (hcolumns : f.layout.columns σ schema records = .ok fields)
    (h : (f.write σ schema records .unlimited).2 = some fault) :
    ∃ r ∈ records, ∃ c ∈ fields, ∃ e, fault = .record e ∧ FieldFault σ schema r.deref c e := by
  rw [write_described csv hsupplied] at h
  cases hrows : f.layout.rows σ schema records with
  | ok table =>
    rw [hrows] at h
    cases h
  | error e =>
    rw [hrows] at h
    cases h
    obtain ⟨r, hr, c, hc, he⟩ := Layout.fieldFault_of_rows hsupplied hcolumns hrows
    exact ⟨r, hr, c, hc, e, rfl, he⟩

/-- Every value has a cell, apart from exactly these kinds: finite numbers that fail to be formatted or go by a name,
and timestamps whose zone fails. A table whose columns are described is written unless a field of one of its records
cannot be read or holds such a value, and then fails with the fault of a field. -/
theorem cells_fail_iff (v : Value) :
    ((∃ t, v.cell = .ok t) ↔ ∀ e, ¬ v.CellFault e) ∧ (∀ e, v.cell = .error e ↔ v.CellFault e) ∧
      ∀ (f : Formatter) (σ : Store) (schema : Schema) (records : List Value) (fields : List Field),
        f.format? = some .csv → f.layout.suppliedHeaders? σ schema records = none →
        f.layout.columns σ schema records = .ok fields →
        ((f.write σ schema records .unlimited).2 = none ↔
          ∀ r ∈ records, ∀ c ∈ fields, ∃ v, r.deref.field σ schema c.name = .ok v ∧ ∀ e, ¬ v.CellFault e) ∧
        ∀ fault, (f.write σ schema records .unlimited).2 = some fault →
          ∃ r ∈ records, ∃ c ∈ fields, ∃ e, fault = .record e ∧ FieldFault σ schema r.deref c e := by
  refine ⟨Value.exists_cell_iff, fun e => Value.cell_eq_error_iff, ?_⟩
  intro f σ schema records fields csv hsupplied hcolumns
  exact ⟨write_eq_none_iff csv hsupplied hcolumns, fun fault h => fieldFault_of_write csv hsupplied hcolumns h⟩

/-- One half as a number. -/
def half : Finite64 := ⟨false, Nat.pow 2 52, 1021, by decide, by decide, by decide⟩

/-- A member of an enumeration which is one half and goes by its name. -/
def ratio : Value := .member "Ratio" "HALF" (.real false none) (.scalar (.float (.finite half)))

/-- A zone one hour ahead that cannot tell its daylight saving time. -/
def bareZone : Zone :=
  .reported (.ok (some 3600000000))
    (.error (.raised (.other "NotImplementedError") "a tzinfo subclass must implement dst()")) (.ok none)

/-- A moment in this zone. -/
def bareMoment : Value := .timestamp ⟨⟨2024, 1, 2⟩, ⟨3, 4, 5, 0⟩, some bareZone⟩

/-- A record that holds this member. -/
def ratios : Store := #[.mapping "dict" [(.text "ratio", ratio)]]

theorem cells_fail_iff_ratios :
    (⟨some "csv", none, none⟩ : Formatter).format? = some .csv ∧
      Layout.suppliedHeaders? ⟨none, none⟩ ratios [] [.object 0] = none ∧
      Layout.columns ⟨none, none⟩ ratios [] [.object 0] = .ok [.unlabelled "ratio"] ∧
      (¬ ∃ t, ratio.cell = .ok t) ∧ (¬ ∃ t, bareMoment.cell = .ok t) ∧
      ((⟨some "csv", none, none⟩ : Formatter).write ratios [] [.object 0] .unlimited).2 ≠ none := by
  have csv : (⟨some "csv", none, none⟩ : Formatter).format? = some .csv := by decide
  have hsupplied : Layout.suppliedHeaders? ⟨none, none⟩ ratios [] [.object 0] = none := rfl
  have hcolumns : Layout.columns ⟨none, none⟩ ratios [] [.object 0] = .ok [.unlabelled "ratio"] := rfl
  have hfault : ratio.CellFault .noFixedPoint := .named rfl rfl fun form h => by cases h
  have hbare : ∃ e, bareMoment.CellFault e := ⟨_, .zone rfl rfl (.saving rfl (by decide) (.fault _))⟩
  obtain ⟨hcell, -, htable⟩ := cells_fail_iff ratio
  refine ⟨csv, hsupplied, hcolumns, ?_, ?_, ?_⟩
  · rw [hcell]
    exact fun h => h .noFixedPoint hfault
  · rw [(cells_fail_iff bareMoment).1]
    obtain ⟨e, he⟩ := hbare
    exact fun h => h e he
  · rw [ne_eq, (htable ⟨some "csv", none, none⟩ ratios [] [.object 0] _ csv hsupplied hcolumns).1]
    intro h
    obtain ⟨v, hv, hnone⟩ := h _ (List.mem_singleton.2 rfl) _ (List.mem_singleton.2 rfl)
    cases hv
    exact hnone .noFixedPoint hfault

end Formatter

end RecordPrint
