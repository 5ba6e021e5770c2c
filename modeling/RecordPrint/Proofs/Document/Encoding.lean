import RecordPrint.Document.Formatter
import RecordPrint.Proofs.Outcome

/-!
# Encoding before writing

What a formatter makes of records before it writes anything.

* `Layout.rows_cases` — a table that is made either has the header and the rows that are supplied, or the headers of its
  columns over one cell for each column and record;
* `Formatter.encoded` — the chunks of the whole document, or the fault of the records;
* `write_eq` — where the rows that records supply themselves hold texts, writing is encoding and then putting the
  chunks one by one;
* `write_whole_or_nothing` — so a sink that does not fail by itself is given the whole document or nothing.
-/

namespace RecordPrint

/-- A value is a text, however it is displayed. -/
def Value.IsText (v : Value) : Prop := ∃ t, v.content? = some (.text t)

variable {σ : Store} {schema : Schema}

/-! ### Lines of texts -/

namespace Csv

/-- The text that a cell is. -/
def cellText? (v : Value) : Option Text :=
  match v.content? with
  | some (.text t) => some t
  | _ => none

/-- The line of a row of texts. -/
def textLine (row : Row) : Text := lineOf (row.filterMap cellText?)

theorem mapM_textOf {row : Row} (h : ∀ v ∈ row, v.IsText) :
    row.mapM (textOf σ schema) = .ok (row.filterMap cellText?) := by
  induction row with
  | nil => rfl
  | cons v row ih =>
    obtain ⟨t, ht⟩ := h v List.mem_cons_self
    have hfirst : textOf σ schema v = .ok t := by simp only [textOf, ht]
    have hcell : cellText? v = some t := by simp only [cellText?, ht]
    rw [mapM_cons_ok hfirst, ih fun w hw => h w (List.mem_cons_of_mem _ hw), List.filterMap_cons, hcell]
    rfl

theorem line_of_texts {row : Row} (h : ∀ v ∈ row, v.IsText) : line σ schema row = .ok (textLine row) := by
  have hnull : row ≠ [Value.null] := by
    rintro rfl
    obtain ⟨t, ht⟩ := h _ List.mem_cons_self
    cases ht
  rw [line, if_neg hnull, mapM_textOf h]
  rfl

end Csv

/-! ### Rows -/

namespace Layout

variable {layout : Layout} {records : List Value} {fields : List Field} {table : List Row}

theorem isText_of_mem_map {ts : List Text} {v : Value} (hv : v ∈ ts.map Value.text) : v.IsText := by
  obtain ⟨t, -, rfl⟩ := List.mem_map.1 hv
  exact ⟨t, rfl⟩

/-- A row that a layout makes of the fields of a record. -/
theorem isText_of_row {r : Value} {row : Row} (h : Layout.row σ schema fields r = .ok row) :
    ∀ v ∈ row, v.IsText := by
  obtain ⟨cells, -, rfl⟩ := map_eq_ok_iff.1 h
  intro v hv
  exact isText_of_mem_map hv

/-- The header row that columns give. -/
def headerRow (fields : List Field) : Row := (fields.map Field.header).map Value.text

/-- The table of columns that are not supplied: their headers, and their cells for each record. -/
theorem rows_of_columns (hsupplied : layout.suppliedHeaders? σ schema records = none)
    (hcolumns : layout.columns σ schema records = .ok fields) :
    layout.rows σ schema records = (records.mapM (row σ schema fields)).map (headerRow fields :: ·) := by
  simp only [rows, hsupplied, hcolumns, headerRow, List.map_map]
  rfl

theorem rows_of_supplied {headers : List Text}
    (hsupplied : layout.suppliedHeaders? σ schema records = some (some headers)) :
    layout.rows σ schema records = (records.mapM (suppliedRow σ schema)).map (headers.map Value.text :: ·) := by
  simp only [rows, hsupplied]
  rfl

/-- A table that is made has the rows that are supplied, or those of its columns. -/
theorem rows_cases (h : layout.rows σ schema records = .ok table) :
    (∃ headers body, layout.suppliedHeaders? σ schema records = some (some headers) ∧
      records.mapM (suppliedRow σ schema) = .ok body ∧ table = headers.map Value.text :: body) ∨
    (∃ fields body, layout.suppliedHeaders? σ schema records = none ∧
      layout.columns σ schema records = .ok fields ∧ records.mapM (row σ schema fields) = .ok body ∧
      table = headerRow fields :: body) := by
  rcases hsupplied : layout.suppliedHeaders? σ schema records with _ | _ | headers
  · right
    cases hcolumns : layout.columns σ schema records with
    | error e =>
      simp only [rows, hsupplied, hcolumns] at h
      cases h
    | ok fields =>
      rw [rows_of_columns hsupplied hcolumns] at h
      obtain ⟨body, hbody, rfl⟩ := map_eq_ok_iff.1 h
      exact ⟨fields, body, rfl, rfl, hbody, rfl⟩
  · simp only [rows, hsupplied] at h
    cases h
  · left
    rw [rows_of_supplied hsupplied] at h
    obtain ⟨body, hbody, rfl⟩ := map_eq_ok_iff.1 h
    exact ⟨headers, body, rfl, hbody, rfl⟩

/-- A table has a header and a row for each record. -/
theorem length_of_rows (h : layout.rows σ schema records = .ok table) :
    table.length = records.length + 1 := by
  rcases rows_cases h with ⟨headers, body, -, hbody, rfl⟩ | ⟨fields, body, -, -, hbody, rfl⟩
  · rw [List.length_cons, (mapM_eq_ok_iff.1 hbody).length_eq]
  · rw [List.length_cons, (mapM_eq_ok_iff.1 hbody).length_eq]

/-- A header of texts over a row of texts for each record. -/
theorem isText_of_made {f : Value → Except Fault Row} {header : List Text} {body : List Row}
    (hrow : ∀ r ∈ records, ∀ row, f r = .ok row → ∀ v ∈ row, v.IsText) (hbody : records.mapM f = .ok body) :
    ∀ row ∈ header.map Value.text :: body, ∀ v ∈ row, v.IsText := by
  intro row hmem
  rcases List.mem_cons.1 hmem with rfl | hmem
  · intro v hv
    exact isText_of_mem_map hv
  · obtain ⟨r, hr, hmade⟩ := exists_of_mapM_eq_ok hbody hmem
    exact hrow r hr row hmade

/-- A table has a header and a row for each record, and its cells are texts, unless the records supply others. -/
theorem rows_spec (h : layout.rows σ schema records = .ok table)
    (htexts : (layout.suppliedHeaders? σ schema records).isSome →
      ∀ r ∈ records, ∀ row, suppliedRow σ schema r = .ok row → ∀ v ∈ row, v.IsText) :
    table.length = records.length + 1 ∧ ∀ row ∈ table, ∀ v ∈ row, v.IsText := by
  refine ⟨length_of_rows h, ?_⟩
  rcases rows_cases h with ⟨headers, body, hsupplied, hbody, rfl⟩ | ⟨fields, body, -, -, hbody, rfl⟩
  · exact isText_of_made (htexts (by rw [hsupplied]; rfl)) hbody
  · exact isText_of_made (fun r _ row hrow => isText_of_row hrow) hbody

end Layout

/-! ### Documents -/

namespace Formatter

variable {f : Formatter} {records : List Value}

/-- The rows that records supply themselves hold texts, where such rows are used. -/
def SuppliesTexts (f : Formatter) (σ : Store) (schema : Schema) (records : List Value) : Prop :=
  f.format? = some .csv → (f.layout.suppliedHeaders? σ schema records).isSome →
    ∀ r ∈ records, ∀ row, Layout.suppliedRow σ schema r = .ok row → ∀ v ∈ row, v.IsText

/-- The chunks of a document, or the fault that keeps the records from being encoded. -/
def encoded (f : Formatter) (σ : Store) (schema : Schema) (records : List Value) : Except Fault (List Text) :=
  match f.format? with
  | none => .ok []
  | some .json => (Json.document σ schema records).map ([·])
  | some .csv => (f.layout.rows σ schema records).map (·.map Csv.textLine)

/-- The chunks of a whole document: none without a format, the text of a JSON document, or the lines of a table, one
for the header and one for each record. -/
def IsDocument (f : Formatter) (σ : Store) (schema : Schema) (records : List Value) (ts : List Text) : Prop :=
  match f.format? with
  | none => ts = []
  | some .json => ∃ t, Json.document σ schema records = .ok t ∧ ts = [t]
  | some .csv => ∃ rows, f.layout.rows σ schema records = .ok rows ∧ ts = rows.map Csv.textLine ∧
      ts.length = records.length + 1

theorem chunks_eq (htexts : f.SuppliesTexts σ schema records) :
    f.chunks σ schema records = (f.encoded σ schema records).map (·.map .ok) := by
  unfold chunks encoded
  rcases hf : f.format? with _ | _ | _
  · rfl
  · simp only [chunksIn]
    cases Json.document σ schema records <;> rfl
  · simp only [chunksIn]
    cases hrows : f.layout.rows σ schema records with
    | error e => rfl
    | ok rows =>
      have hcells := (Layout.rows_spec hrows (htexts hf)).2
      simp only [Except.map, List.map_map, Except.ok.injEq]
      exact List.map_congr_left fun row hrow => Csv.line_of_texts (hcells row hrow)

theorem isDocument_of_encoded {ts : List Text} (htexts : f.SuppliesTexts σ schema records)
    (h : f.encoded σ schema records = .ok ts) : f.IsDocument σ schema records ts := by
  unfold encoded at h
  unfold IsDocument
  rcases hf : f.format? with _ | _ | _
  · simp only [hf] at h
    cases h
    rfl
  · simp only [hf] at h
    obtain ⟨t, ht, rfl⟩ := map_eq_ok_iff.1 h
    exact ⟨t, ht, rfl⟩
  · simp only [hf] at h
    obtain ⟨table, htable, rfl⟩ := map_eq_ok_iff.1 h
    have hlength := (Layout.rows_spec htable (htexts hf)).1
    exact ⟨table, htable, rfl, by rw [List.length_map, hlength]⟩

/-! ### Writing -/

theorem putChunks_ok (sink : Sink) (ts : List Text) :
    putChunks sink (ts.map .ok) = ((sink.putAll ts).1, (sink.putAll ts).2.map .stream) := by
  induction ts generalizing sink with
  | nil => rfl
  | cons t ts ih =>
    rw [List.map_cons, putChunks, Sink.putAll]
    cases sink.put t with
    | error fault => rfl
    | ok sink => exact ih sink

/-- Writing puts chunks only when the whole document is encoded. -/
theorem write_eq (htexts : f.SuppliesTexts σ schema records) (sink : Sink) :
    f.write σ schema records sink =
      match f.encoded σ schema records with
      | .error e => (sink, some (.record e))
      | .ok ts => ((sink.putAll ts).1, (sink.putAll ts).2.map .stream) := by
  rw [write, chunks_eq htexts]
  cases f.encoded σ schema records with
  | error e => rfl
  | ok ts => exact putChunks_ok sink ts

end Formatter

namespace Sink

/-- A sink does not fail by itself: it takes any number of chunks and any text. -/
structure Unfailing (s : Sink) : Prop where
  budget : s.budget = none
  encoded : s.encoded = false

theorem putAll_unfailing {s : Sink} (hs : s.Unfailing) (ts : List Text) :
    s.putAll ts = ({ s with chunks := s.chunks ++ ts }, none) := by
  obtain ⟨chunks, budget, encoded⟩ := s
  obtain ⟨rfl, rfl⟩ := hs
  induction ts generalizing chunks with
  | nil => rw [putAll, List.append_nil]
  | cons t ts ih =>
    have hput : Sink.put ⟨chunks, none, false⟩ t = .ok ⟨chunks ++ [t], none, false⟩ := rfl
    rw [putAll, hput]
    simp only [ih, List.append_assoc, List.singleton_append]

end Sink

namespace Formatter

variable {f : Formatter} {records : List Value}

/-- On a sink that does not fail by itself, writing that fails has put nothing, and what has failed is the encoding;
writing that does not fail has put the whole document. -/
theorem write_whole_or_nothing (htexts : f.SuppliesTexts σ schema records) {sink : Sink} (hsink : sink.Unfailing) :
    (∀ fault, (f.write σ schema records sink).2 = some fault →
      (f.write σ schema records sink).1 = sink ∧
        ∃ e, f.encoded σ schema records = .error e ∧ fault = .record e) ∧
    ((f.write σ schema records sink).2 = none →
      ∃ ts, f.encoded σ schema records = .ok ts ∧ f.IsDocument σ schema records ts ∧
        (f.write σ schema records sink).1 = { sink with chunks := sink.chunks ++ ts }) := by
  rw [write_eq htexts]
  cases hencoded : f.encoded σ schema records with
  | error e =>
    constructor
    · intro fault hfault
      cases hfault
      exact ⟨rfl, e, rfl, rfl⟩
    · intro hnone
      cases hnone
  | ok ts =>
    simp only [Sink.putAll_unfailing hsink]
    constructor
    · intro fault hfault
      cases hfault
    · intro _
      exact ⟨ts, rfl, isDocument_of_encoded htexts hencoded, rfl⟩

/-- A shape whose records supply one cell. -/
def purseSchema : Schema :=
  .ofDecls [⟨"Purse", .plain, [], [], [], false, some ⟨some ["Amount"], some ["amount"]⟩, []⟩]

/-- Two records of this shape. The amount of the second one is not set. -/
def purses : Store :=
  #[.instance ⟨"Purse", [("amount", .text "5")], [], [], [], .ok .null⟩,
    .instance ⟨"Purse", [], [], [], [], .ok .null⟩]

def purseFormatter (selector : Option Text) : Formatter := ⟨selector, none, none⟩

theorem purseFormatter_suppliesTexts {selector : Option Text} {records : List Value}
    (h : ∀ r ∈ records, r = .object 0 ∨ r = .object 1) :
    (purseFormatter selector).SuppliesTexts purses purseSchema records := by
  intro _ _ r hr row hrow
  rcases h r hr with rfl | rfl
  · have hmade : Layout.suppliedRow purses purseSchema (.object 0) = .ok [.text "5"] := rfl
    rw [hmade] at hrow
    cases hrow
    intro v hv
    exact ⟨"5", by rw [List.mem_singleton.1 hv]; rfl⟩
  · have hmade : Layout.suppliedRow purses purseSchema (.object 1) = .error (.noAttribute "Purse" "amount") := rfl
    rw [hmade] at hrow
    cases hrow

theorem write_whole_or_nothing_purses :
    (purseFormatter (some "csv")).SuppliesTexts purses purseSchema [.object 0, .object 1] ∧
      Sink.Unfailing ⟨["before"], none, false⟩ ∧
      (purseFormatter (some "csv")).write purses purseSchema [.object 0, .object 1] ⟨["before"], none, false⟩ =
        (⟨["before"], none, false⟩, some (.record (.noAttribute "Purse" "amount"))) := by
  have htexts : (purseFormatter (some "csv")).SuppliesTexts purses purseSchema [.object 0, .object 1] :=
    purseFormatter_suppliesTexts (by decide)
  have hsink : Sink.Unfailing ⟨["before"], none, false⟩ := ⟨rfl, rfl⟩
  have hfault : ((purseFormatter (some "csv")).write purses purseSchema [.object 0, .object 1]
      ⟨["before"], none, false⟩).2 = some (.record (.noAttribute "Purse" "amount")) := rfl
  obtain ⟨hnothing, -⟩ := write_whole_or_nothing htexts hsink
  exact ⟨htexts, hsink, Prod.ext (hnothing _ hfault).1 hfault⟩

end Formatter

end RecordPrint
