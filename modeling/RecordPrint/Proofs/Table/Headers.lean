import RecordPrint.Proofs.Document.Encoding

/-!
# Headers of tables

The columns of a table can be asked for without making it. The first row of the table is then the headers of these
columns, unless the record type supplies its header: the columns are described without asking for that.

* `columns_of_supplied` — where the header is supplied, the columns are still the fields of the record type, or the keys
  of the first record;
* `header_eq_iff` — so the two agree exactly if the supplied header is that of these columns.
-/

namespace RecordPrint

namespace Layout

variable {σ : Store} {schema : Schema} {layout : Layout} {records : List Value} {fields : List Field}

theorem text_injective : Function.Injective Value.text := by
  intro s t h
  simpa [Value.text] using h

theorem map_text_eq_headerRow_iff {headers : List Text} :
    headers.map Value.text = headerRow fields ↔ headers = fields.map Field.header :=
  (List.map_injective_iff.2 text_injective).eq_iff

theorem length_of_row {r : Value} {row : Row} (h : Layout.row σ schema fields r = .ok row) :
    row.length = fields.length := by
  obtain ⟨cells, hcells, rfl⟩ := map_eq_ok_iff.1 h
  rw [List.length_map, ← (mapM_eq_ok_iff.1 hcells).length_eq]

/-! ### Columns beside a supplied header -/

theorem supplied_spec {headers : Option (List Text)}
    (h : layout.suppliedHeaders? σ schema records = some headers) :
    layout.fields = none ∧ ∃ name, layout.rowType σ records = some (.shape name) ∧ schema.headers? name = some headers := by
  unfold suppliedHeaders? at h
  split at h
  · rename_i name hfields htype
    exact ⟨hfields, name, htype, h⟩
  · cases h

/-- Where the header is supplied the columns are not taken from it: they are the declared fields of the record type, or
the keys of the first record if it declares none. -/
theorem columns_of_supplied {headers : Option (List Text)}
    (hsupplied : layout.suppliedHeaders? σ schema records = some headers)
    (hcolumns : layout.columns σ schema records = .ok fields) :
    ∃ name, layout.rowType σ records = some (.shape name) ∧ schema.headers? name = some headers ∧
      (fields = schema.fields name ∨ schema.fields name = [] ∧ firstKeys σ schema records = .ok fields) := by
  obtain ⟨hfields, name, htype, hheaders⟩ := supplied_spec hsupplied
  refine ⟨name, htype, hheaders, ?_⟩
  have hdescribe : schema.describe (.shape name) = schema.fields name := rfl
  simp only [columns, hfields, htype, Option.map_some, Option.getD_some, hdescribe] at hcolumns
  split at hcolumns
  · rename_i hnone
    exact .inr ⟨hnone, hcolumns⟩
  · cases hcolumns
    exact .inl rfl

/-! ### Columns and header -/

/-- The first row of a table is the header of its columns, and each other row has as many cells, unless the record type
supplies its header. Then the columns are its declared fields, or the keys of the first record if it has none, and the
two agree exactly if the supplied header is theirs; each row has as many cells as the header if this holds of the rows
that are supplied. -/
theorem header_eq_iff {table : List Row} (hcolumns : layout.columns σ schema records = .ok fields)
    (hrows : layout.rows σ schema records = .ok table) :
    ∃ header body, table = header :: body ∧ body.length = records.length ∧
      (header = headerRow fields ↔
        ∀ headers, layout.suppliedHeaders? σ schema records = some (some headers) → headers = fields.map Field.header) ∧
      ((∀ headers, layout.suppliedHeaders? σ schema records = some (some headers) →
          ∀ r ∈ records, ∀ row, suppliedRow σ schema r = .ok row → row.length = headers.length) →
        ∀ row ∈ body, row.length = header.length) ∧
      (∀ headers, layout.suppliedHeaders? σ schema records = some (some headers) →
        layout.fields = none ∧ ∃ name, layout.rowType σ records = some (.shape name) ∧
          schema.headers? name = some (some headers) ∧
          (fields = schema.fields name ∨ schema.fields name = [] ∧ firstKeys σ schema records = .ok fields)) := by
  rcases rows_cases hrows with ⟨headers, body, hsupplied, hbody, rfl⟩ | ⟨fields', body, hsupplied, hcolumns', hbody, rfl⟩
  · refine ⟨_, body, rfl, (mapM_eq_ok_iff.1 hbody).length_eq.symm, ?_, ?_, ?_⟩
    · rw [map_text_eq_headerRow_iff, hsupplied]
      constructor
      · intro h _ heq
        cases heq
        exact h
      · intro h
        exact h headers rfl
    · intro hlengths row hrow
      obtain ⟨r, hr, hmade⟩ := exists_of_mapM_eq_ok hbody hrow
      rw [List.length_map]
      exact hlengths headers hsupplied r hr row hmade
    · intro headers' hsupplied'
      exact ⟨(supplied_spec hsupplied').1, columns_of_supplied hsupplied' hcolumns⟩
  · rw [hcolumns] at hcolumns'
    cases hcolumns'
    refine ⟨_, body, rfl, (mapM_eq_ok_iff.1 hbody).length_eq.symm, ?_, ?_, ?_⟩
    · rw [hsupplied]
      exact ⟨fun _ _ heq => (by cases heq), fun _ => rfl⟩
    · intro _ row hrow
      obtain ⟨r, -, hmade⟩ := exists_of_mapM_eq_ok hbody hrow
      rw [length_of_row hmade, headerRow, List.length_map, List.length_map]
    · intro headers heq
      rw [hsupplied] at heq
      cases heq

open Formatter in
/-- The shape of purses supplies a header, but has no columns. -/
theorem header_eq_iff_purses :
    Layout.columns ⟨none, none⟩ purses purseSchema [.object 0] = .ok [] ∧
      Layout.rows ⟨none, none⟩ purses purseSchema [.object 0] = .ok [[.text "Amount"], [.text "5"]] ∧
      ∃ header body, [[Value.text "Amount"], [.text "5"]] = header :: body ∧ header ≠ headerRow [] := by
  have hcolumns : Layout.columns ⟨none, none⟩ purses purseSchema [.object 0] = .ok [] := rfl
  have hrows : Layout.rows ⟨none, none⟩ purses purseSchema [.object 0] = .ok [[.text "Amount"], [.text "5"]] := rfl
  obtain ⟨header, body, htable, -, hiff, -⟩ := header_eq_iff hcolumns hrows
  refine ⟨hcolumns, hrows, header, body, htable, ?_⟩
  rw [ne_eq, hiff]
  intro h
  have hnone : [("Amount" : Text)] = [] := h [("Amount" : Text)] rfl
  cases hnone

end Layout

end RecordPrint
