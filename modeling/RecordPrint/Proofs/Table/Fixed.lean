import RecordPrint.Proofs.Document.Encoding
import RecordPrint.Proofs.Schema.Indirection

/-!
# Tables with fixed columns

* `Layout.Fixed` — layouts whose columns do not wait for the records: the record type counts behind the two levels of
  indirection that a table takes off;
* `Formatter.IsLocal` — what is written for a list of records is a header and a line for each of them;
* `isLocal_of_rows` — this holds if each row is made of its record alone, below a header made of none;
* `isLocal_iff_fixed` — the formatters of tables for which it holds in any store are those with a fixed layout.
-/

namespace RecordPrint

variable {σ : Store} {schema : Schema}

/-! ### Writing tables -/

namespace Formatter

variable {f : Formatter} {records : List Value} {t u : Text}

/-- A text is written for some records, without a fault. -/
def Writes (f : Formatter) (σ : Store) (schema : Schema) (records : List Value) (t : Text) : Prop :=
  (f.write σ schema records .unlimited).2 = none ∧ (f.write σ schema records .unlimited).1.text = t

theorem Writes.unique (ht : f.Writes σ schema records t) (hu : f.Writes σ schema records u) : u = t :=
  hu.2.symm.trans ht.2

theorem putChunks_eq_none {sink : Sink} {chunks : List (Except Fault Text)} (h : (putChunks sink chunks).2 = none) :
    ∃ ts : List Text, chunks = ts.map .ok := by
  induction chunks generalizing sink with
  | nil => exact ⟨[], rfl⟩
  | cons chunk chunks ih =>
    cases chunk with
    | error e => cases h
    | ok t =>
      rw [putChunks] at h
      cases hput : sink.put t with
      | error fault =>
        rw [hput] at h
        cases h
      | ok sink' =>
        rw [hput] at h
        obtain ⟨ts, rfl⟩ := ih h
        exact ⟨t :: ts, rfl⟩

/-- What is written for a table are the lines of its rows. -/
theorem writes_iff (hf : f.format? = some .csv) : f.Writes σ schema records t ↔
    ∃ rows ts, f.layout.rows σ schema records = .ok rows ∧ rows.mapM (Csv.line σ schema) = .ok ts ∧ ts.flatten = t := by
  have hchunks : f.chunks σ schema records = (f.layout.rows σ schema records).map (·.map (Csv.line σ schema)) := by
    simp only [chunks, hf, chunksIn]
  cases hrows : f.layout.rows σ schema records with
  | error e =>
    refine ⟨fun h => ?_, ?_⟩
    · have hnone := h.1
      rw [write, hchunks, hrows] at hnone
      cases hnone
    · rintro ⟨rows, ts, hnone, -⟩
      cases hnone
  | ok rows =>
    have hwrite : f.write σ schema records .unlimited = putChunks .unlimited (rows.map (Csv.line σ schema)) := by
      rw [write, hchunks, hrows]
      rfl
    have hput : ∀ ts, putChunks .unlimited (ts.map .ok) = (⟨ts, none, false⟩, none) := by
      intro ts
      rw [putChunks_ok, Sink.putAll_unfailing (s := .unlimited) ⟨rfl, rfl⟩]
      rfl
    rw [Writes, hwrite]
    constructor
    · rintro ⟨hnone, htext⟩
      obtain ⟨ts, hts⟩ := putChunks_eq_none hnone
      rw [hts, hput] at htext
      exact ⟨rows, ts, rfl, map_eq_map_ok_iff.1 hts, htext⟩
    · rintro ⟨rows', ts, heq, hts, htext⟩
      cases heq
      rw [map_eq_map_ok_iff.2 hts, hput]
      exact ⟨rfl, htext⟩

/-- What is written for a list of records is a header and a line for each of them: it is written for two lists exactly
if it is for each, and then the one text is followed by the other one without the header. -/
structure IsLocal (f : Formatter) (σ : Store) (schema : Schema) : Prop where
  append : ∀ r s, (∃ t, f.Writes σ schema (r ++ s) t) ↔ (∃ t, f.Writes σ schema r t) ∧ ∃ t, f.Writes σ schema s t
  text : ∀ r s t u, f.Writes σ schema r t → f.Writes σ schema s u →
    ∃ header body, f.Writes σ schema [] header ∧ u = header ++ body ∧ f.Writes σ schema (r ++ s) (t ++ body)
  lines : ∃ line : Value → Text, ∀ records t, f.Writes σ schema records t →
    ∃ header, f.Writes σ schema [] header ∧ t = header ++ records.flatMap line

/-- A formatter of tables that have a row for each record, made of this record alone, below a header that is made of
none. -/
theorem isLocal_of_rows (hf : f.format? = some .csv) {header : Except Fault Row} {row : Value → Except Fault Row}
    (hrows : ∀ records, f.layout.rows σ schema records = header.bind fun h => (records.mapM row).map (h :: ·)) :
    f.IsLocal σ schema := by
  have hwrites : ∀ records t, f.Writes σ schema records t ↔ ∃ head ts, header.bind (Csv.line σ schema) = .ok head ∧
      records.mapM (fun r => (row r).bind (Csv.line σ schema)) = .ok ts ∧ head ++ ts.flatten = t := by
    intro records t
    rw [writes_iff hf, hrows]
    constructor
    · rintro ⟨table, lines, htable, hlines, rfl⟩
      obtain ⟨h, hheader, hmap⟩ := bind_eq_ok_iff.1 htable
      obtain ⟨rows, hrecords, rfl⟩ := map_eq_ok_iff.1 hmap
      rw [List.mapM_cons] at hlines
      obtain ⟨head, hhead, hrest⟩ := bind_eq_ok_iff.1 hlines
      obtain ⟨ts, hts, heq⟩ := bind_eq_ok_iff.1 hrest
      cases heq
      exact ⟨head, ts, bind_eq_ok_iff.2 ⟨h, hheader, hhead⟩, mapM_bind_eq_ok_iff.2 ⟨rows, hrecords, hts⟩, rfl⟩
    · rintro ⟨head, ts, hhead, hts, rfl⟩
      obtain ⟨h, hheader, hline⟩ := bind_eq_ok_iff.1 hhead
      obtain ⟨rows, hrecords, hlines⟩ := mapM_bind_eq_ok_iff.1 hts
      refine ⟨h :: rows, head :: ts, ?_, ?_, rfl⟩
      · rw [hheader, hrecords]
        rfl
      · rw [mapM_cons_ok hline, hlines]
        rfl
  have hnil : ∀ {head}, header.bind (Csv.line σ schema) = .ok head → f.Writes σ schema [] head := by
    intro head hhead
    exact (hwrites [] head).2 ⟨head, [], hhead, rfl, List.append_nil head⟩
  refine ⟨fun r s => ?_, fun r s t u ht hu => ?_, fun record => ?_, fun records t ht => ?_⟩
  · simp only [hwrites]
    constructor
    · rintro ⟨t, head, ts, hhead, hts, rfl⟩
      obtain ⟨as, bs, has, hbs, rfl⟩ := mapM_append_eq_ok_iff.1 hts
      exact ⟨⟨_, head, as, hhead, has, rfl⟩, ⟨_, head, bs, hhead, hbs, rfl⟩⟩
    · rintro ⟨⟨t, head, as, hhead, has, rfl⟩, ⟨u, head', bs, -, hbs, rfl⟩⟩
      exact ⟨_, head, as ++ bs, hhead, mapM_append_eq_ok_iff.2 ⟨as, bs, has, hbs, rfl⟩, rfl⟩
  · obtain ⟨head, as, hhead, has, rfl⟩ := (hwrites r t).1 ht
    obtain ⟨head', bs, hhead', hbs, rfl⟩ := (hwrites s u).1 hu
    rw [hhead] at hhead'
    cases hhead'
    refine ⟨head, bs.flatten, hnil hhead, rfl, (hwrites _ _).2 ⟨head, as ++ bs, hhead, ?_, ?_⟩⟩
    · exact mapM_append_eq_ok_iff.2 ⟨as, bs, has, hbs, rfl⟩
    · rw [List.flatten_append, List.append_assoc]
  · exact ((row record).bind (Csv.line σ schema)).toOption.getD []
  · obtain ⟨head, ts, hhead, hts, rfl⟩ := (hwrites records t).1 ht
    refine ⟨head, hnil hhead, congrArg (head ++ ·) ?_⟩
    have hall := mapM_eq_ok_iff.1 hts
    clear hts ht
    induction hall with
    | nil => rfl
    | cons hfirst _ ih =>
      rw [List.flatten_cons, List.flatMap_cons, ih, hfirst]
      rfl

end Formatter

/-! ### Fixed columns -/

namespace Layout

variable {layout : Layout}

/-- A layout whose columns are known before its records are: they are given, or supplied by the record type, or fields
of the record type. The table takes one level of indirection off the record type, and the description of its fields
another one. -/
def Fixed (layout : Layout) (schema : Schema) : Prop :=
  layout.fields ≠ none ∨
    ∃ t, layout.recordType = some t ∧ (schema.isTabular t.deref = true ∨ schema.describe t.deref ≠ [])

theorem isSome_suppliedHeaders? (σ : Store) (schema : Schema) (t : TypeExpr) (records : List Value) :
    (suppliedHeaders? ⟨some t, none⟩ σ schema records).isSome = schema.isTabular t.deref := by
  simp only [suppliedHeaders?, rowType, Schema.isTabular]
  cases t.deref <;> rfl

/-- The records are not asked for the columns of a fixed layout. -/
theorem rows_of_fixed (σ : Store) (h : layout.Fixed schema) :
    ∃ (header : Except Fault Row) (row : Value → Except Fault Row), ∀ records,
      layout.rows σ schema records = header.bind fun h => (records.mapM row).map (h :: ·) := by
  obtain ⟨recordType, fields⟩ := layout
  cases fields with
  | some fields =>
    refine ⟨.ok (fields.map fun f => .text f.header), row σ schema fields, fun records => ?_⟩
    simp only [rows, suppliedHeaders?, columns]
    rfl
  | none =>
    rcases h with hnone | ⟨t, rfl, h⟩
    · exact absurd rfl hnone
    · have hsame : ∀ records, suppliedHeaders? ⟨some t, none⟩ σ schema records =
          suppliedHeaders? ⟨some t, none⟩ σ schema [] := fun _ => rfl
      cases hsupplied : suppliedHeaders? ⟨some t, none⟩ σ schema [] with
      | none =>
        have hnotTabular : schema.isTabular t.deref ≠ true := by
          rw [← isSome_suppliedHeaders? σ schema t [], hsupplied]
          exact Bool.false_ne_true
        have hdescribe : schema.describe t.deref ≠ [] := h.resolve_left hnotTabular
        refine ⟨.ok ((schema.describe t.deref).map fun f => .text f.header), row σ schema (schema.describe t.deref),
          fun records => ?_⟩
        simp only [rows, hsame, hsupplied, columns_of_type t (.inl hdescribe)]
        rfl
      | some headers =>
        cases headers with
        | none =>
          refine ⟨.error (.notIterable Scalar.null.typeName), suppliedRow σ schema, fun records => ?_⟩
          simp only [rows, hsame, hsupplied]
          rfl
        | some headers =>
          refine ⟨.ok (headers.map Value.text), suppliedRow σ schema, fun records => ?_⟩
          simp only [rows, hsame, hsupplied]
          rfl

/-- A mapping with one entry. -/
def oneEntry : Store := #[.mapping "dict" [(.text "a", .int 1)]]

/-- A layout that is not fixed takes the columns of a mapping, and has none without records. -/
theorem rows_of_not_fixed (h : ¬ layout.Fixed schema) :
    layout.rows oneEntry schema [] = .ok [[]] ∧
      layout.rows oneEntry schema [.object 0] = .ok [[.text "a"], [.text "1"]] := by
  obtain ⟨recordType, fields⟩ := layout
  rw [Fixed, not_or, not_not] at h
  obtain ⟨hfields, htype⟩ := h
  cases hfields
  cases recordType with
  | none => exact ⟨rfl, rfl⟩
  | some t =>
    have hnot := fun hfixed => htype ⟨t, rfl, hfixed⟩
    have hdescribe : schema.describe t.deref = [] := by
      by_contra hne
      exact hnot (.inr hne)
    have hsupplied : ∀ records, suppliedHeaders? ⟨some t, none⟩ oneEntry schema records = none := by
      intro records
      have hsome := isSome_suppliedHeaders? oneEntry schema t records
      rw [Bool.eq_false_iff.2 fun htabular => hnot (.inl htabular)] at hsome
      exact Option.not_isSome_iff_eq_none.1 (by rw [hsome]; exact Bool.false_ne_true)
    have hcolumns : ∀ records, Layout.columns ⟨some t, none⟩ oneEntry schema records =
        firstKeys oneEntry schema records := by
      intro records
      simp only [columns, rowType, Option.map_some, Option.getD_some, hdescribe]
    constructor
    · simp only [rows, hsupplied, hcolumns]
      rfl
    · simp only [rows, hsupplied, hcolumns]
      rfl

end Layout

namespace Formatter

variable {f : Formatter}

/-- A formatter of tables writes a header and a line for each record, whatever the store, exactly if its layout is
fixed. -/
theorem isLocal_iff_fixed (hf : f.format? = some .csv) (schema : Schema) :
    (∀ σ, f.IsLocal σ schema) ↔ f.layout.Fixed schema := by
  constructor
  · intro hlocal
    by_contra hfixed
    obtain ⟨hnone, hone⟩ := Layout.rows_of_not_fixed hfixed
    have hempty : f.Writes Layout.oneEntry schema [] "\n" := (writes_iff hf).2 ⟨_, _, hnone, rfl, rfl⟩
    have hmapping : f.Writes Layout.oneEntry schema [.object 0] "a\n1\n" := (writes_iff hf).2 ⟨_, _, hone, rfl, rfl⟩
    -- the text for the mapping does not start with the one for nothing
    obtain ⟨line, hlines⟩ := (hlocal Layout.oneEntry).lines
    obtain ⟨header, hheader, htext⟩ := hlines _ _ hmapping
    rw [hempty.unique hheader] at htext
    cases htext
  · intro hfixed σ
    obtain ⟨header, row, hrows⟩ := Layout.rows_of_fixed σ hfixed
    exact isLocal_of_rows hf hrows

/-- An optional reference to a dictionary is described as a reference, but is a dictionary behind two levels. -/
def optionalReference : TypeExpr := .either (.ref (.builtin "dict")) .absent

/-- So a table of such references has no fixed columns, though its record type has a field. -/
theorem isLocal_iff_fixed_optionalReference :
    Schema.describe [] optionalReference = [.unlabelled "target"] ∧
      ¬ ∀ σ, (⟨some "csv", some optionalReference, none⟩ : Formatter).IsLocal σ [] := by
  refine ⟨rfl, ?_⟩
  rw [isLocal_iff_fixed (by decide)]
  rintro (hfields | ⟨t, ht, h⟩)
  · exact hfields rfl
  · cases ht
    rcases h with htabular | hdescribe
    · exact absurd htabular (by decide)
    · exact hdescribe rfl

end Formatter

end RecordPrint
