import RecordPrint.Document.Formatter
import RecordPrint.Proofs.Outcome

/-!
# Reading tables back

A reader of comma-separated rows as a scan of the text with three phases. A cell ends at a comma outside of
quotes and a row at a line feed outside of quotes; inside of quotes two quotes stand for one.

* `scan_lineOf` — the scan of a written row completes exactly this row, if it has a cell;
* `length_rows_scan` — of any text, the scan completes as many rows as there are line feeds outside of quotes;
* `decode_written` — what is written for a table decodes to the table.
-/

namespace RecordPrint

namespace Csv

/-! ### The reader -/

/-- Where a reader stands: outside of quotes, inside of them, or behind a quote that ends them unless another
one follows. -/
inductive Phase where
  | outside
  | inside
  | behind
  deriving DecidableEq

/-- The phase behind one more code point. -/
def Phase.next : Phase → CodePoint → Phase
  | inside, c => if c = .char '"' then behind else inside
  | _, c => if c = .char '"' then inside else outside

/-- The state of a reader: its phase, the rows completed, the cells completed of the row being read, and the
text of the cell being read. -/
structure Scan where
  phase : Phase
  rows : List (List Text)
  cells : List Text
  cell : Text

/-- The state in front of a text. -/
def Scan.start : Scan := ⟨.outside, [], [], []⟩

/-- One code point. -/
def Scan.step (s : Scan) (c : CodePoint) : Scan :=
  match s.phase with
  | .inside =>
    if c = .char '"' then { s with phase := .behind } else { s with cell := s.cell ++ [c] }
  | p =>
    if c = .char '"' then
      { s with phase := .inside, cell := if p = .behind then s.cell ++ [c] else s.cell }
    else if c = .char ',' then ⟨.outside, s.rows, s.cells ++ [s.cell], []⟩
    else if c = .char '\n' then ⟨.outside, s.rows ++ [s.cells ++ [s.cell]], [], []⟩
    else { s with phase := .outside, cell := s.cell ++ [c] }

/-- The state behind a text. -/
def Scan.run (s : Scan) (t : Text) : Scan := t.foldl Scan.step s

/-- The rows of a text that ends with a row. -/
def decode (t : Text) : Option (List (List Text)) :=
  match Scan.start.run t with
  | ⟨.outside, rows, [], []⟩ => some rows
  | _ => none

/-- The number of line feeds outside of quotes in a text that is read from a phase on. -/
def breaksFrom : Phase → Text → Nat
  | _, [] => 0
  | p, c :: t => (if p ≠ .inside ∧ c = .char '\n' then 1 else 0) + breaksFrom (p.next c) t

/-- The number of line feeds outside of quotes. -/
def unquotedBreaks (t : Text) : Nat := breaksFrom .outside t

namespace Scan

@[simp] theorem run_nil (s : Scan) : s.run [] = s := rfl

@[simp] theorem run_cons (s : Scan) (c : CodePoint) (t : Text) : s.run (c :: t) = (s.step c).run t := rfl

theorem run_append (s : Scan) (t u : Text) : s.run (t ++ u) = (s.run t).run u := by
  simp [run, List.foldl_append]

/-! ### One code point -/

theorem phase_step (s : Scan) (c : CodePoint) : (s.step c).phase = s.phase.next c := by
  obtain ⟨p, rows, cells, cell⟩ := s
  cases p <;> simp only [step, Phase.next] <;> split_ifs <;> rfl

theorem length_rows_step (s : Scan) (c : CodePoint) :
    (s.step c).rows.length = s.rows.length + if s.phase ≠ .inside ∧ c = .char '\n' then 1 else 0 := by
  obtain ⟨p, rows, cells, cell⟩ := s
  cases p <;> simp only [step] <;> split_ifs <;> simp_all

variable {s : Scan} {c : CodePoint}

/-- Outside of quotes a code point that needs none is one of the cell. -/
theorem step_plain {rows : List (List Text)} {cells : List Text} {cell : Text} (h : needsQuotes c = false) :
    step ⟨.outside, rows, cells, cell⟩ c = ⟨.outside, rows, cells, cell ++ [c]⟩ := by
  simp only [needsQuotes, Bool.or_eq_false_iff, decide_eq_false_iff_not] at h
  obtain ⟨⟨h1, h2⟩, h3⟩ := h
  simp [step, h1, h2, h3]

theorem step_comma (h : s.phase ≠ .inside) :
    s.step (.char ',') = ⟨.outside, s.rows, s.cells ++ [s.cell], []⟩ := by
  obtain ⟨p, rows, cells, cell⟩ := s
  cases p with
  | outside => rfl
  | inside => exact absurd rfl h
  | behind => rfl

theorem step_break (h : s.phase ≠ .inside) :
    s.step (.char '\n') = ⟨.outside, s.rows ++ [s.cells ++ [s.cell]], [], []⟩ := by
  obtain ⟨p, rows, cells, cell⟩ := s
  cases p with
  | outside => rfl
  | inside => exact absurd rfl h
  | behind => rfl

end Scan

/-! ### Counting rows -/

/-- A scan completes a row at each line feed outside of quotes, and nowhere else. -/
theorem length_rows_run (s : Scan) (t : Text) :
    (s.run t).rows.length = s.rows.length + breaksFrom s.phase t := by
  induction t generalizing s with
  | nil => simp [breaksFrom]
  | cons c t ih =>
    rw [Scan.run_cons, ih, Scan.length_rows_step, Scan.phase_step, breaksFrom]
    omega

theorem length_rows_scan (t : Text) : (Scan.start.run t).rows.length = unquotedBreaks t := by
  rw [length_rows_run]
  simp [Scan.start, unquotedBreaks]

theorem length_of_decode {t : Text} {rows : List (List Text)} (h : decode t = some rows) :
    rows.length = unquotedBreaks t := by
  rw [← length_rows_scan t]
  unfold decode at h
  split at h
  · next r hr =>
    rw [hr]
    simp only [Option.some.injEq] at h
    rw [h]
  · cases h

/-! ### Written cells and rows -/

section Written

variable (rows : List (List Text)) (cells : List Text)

theorem scan_plain (cell t : Text) (h : t.any needsQuotes = false) :
    Scan.run ⟨.outside, rows, cells, cell⟩ t = ⟨.outside, rows, cells, cell ++ t⟩ := by
  induction t generalizing cell with
  | nil => simp
  | cons c t ih =>
    simp only [List.any_cons, Bool.or_eq_false_iff] at h
    rw [Scan.run_cons, Scan.step_plain h.1, ih _ h.2]
    simp

theorem scan_doubled (cell : Text) (c : CodePoint) :
    Scan.run ⟨.inside, rows, cells, cell⟩ (doubled c) = ⟨.inside, rows, cells, cell ++ [c]⟩ := by
  by_cases h : c = .char '"' <;> simp [doubled, h, Scan.step]

theorem scan_doubled_all (cell t : Text) :
    Scan.run ⟨.inside, rows, cells, cell⟩ (t.flatMap doubled) = ⟨.inside, rows, cells, cell ++ t⟩ := by
  induction t generalizing cell with
  | nil => simp
  | cons c t ih =>
    rw [List.flatMap_cons, Scan.run_append, scan_doubled, ih]
    simp

/-- A written cell is read as the cell, and leaves the reader where cells and rows may end. -/
theorem scan_cell (t : Text) :
    ∃ p, p ≠ Phase.inside ∧ Scan.run ⟨.outside, rows, cells, []⟩ (cell t) = ⟨p, rows, cells, t⟩ := by
  by_cases h : t.any needsQuotes
  · refine ⟨.behind, by decide, ?_⟩
    have opening : Scan.step ⟨.outside, rows, cells, []⟩ (.char '"') = ⟨.inside, rows, cells, []⟩ := rfl
    have closing : Scan.step ⟨.inside, rows, cells, t⟩ (.char '"') = ⟨.behind, rows, cells, t⟩ := rfl
    rw [cell, if_pos h, quoted, List.cons_append, Scan.run_cons, opening, Scan.run_append, scan_doubled_all,
      Scan.run_cons, List.nil_append, closing, Scan.run_nil]
  · refine ⟨.outside, by decide, ?_⟩
    rw [cell, if_neg h, scan_plain rows cells [] t (by simpa using h)]
    simp

/-- The cells of a row, read behind some cells of the same row. -/
theorem scan_cells (t : Text) (ts : List Text) :
    ∃ p done last, p ≠ Phase.inside ∧ done ++ [last] = cells ++ t :: ts ∧
      Scan.run ⟨.outside, rows, cells, []⟩ (Text.join [.char ','] ((t :: ts).map cell)) =
        ⟨p, rows, done, last⟩ := by
  -- behind a comma the other cells are read behind one cell more
  induction ts generalizing t cells with
  | nil =>
    obtain ⟨p, hp, hrun⟩ := scan_cell rows cells t
    exact ⟨p, cells, t, hp, rfl, hrun⟩
  | cons u us ih =>
    obtain ⟨p, hp, hrun⟩ := scan_cell rows cells t
    obtain ⟨q, done, last, hq, hcells, hrest⟩ := ih (cells ++ [t]) u
    refine ⟨q, done, last, hq, by simpa using hcells, ?_⟩
    have hjoin : Text.join [.char ','] ((t :: u :: us).map cell) =
        cell t ++ .char ',' :: Text.join [.char ','] ((u :: us).map cell) := by
      simp [Text.join]
    rw [hjoin, Scan.run_append, hrun, Scan.run_cons,
      Scan.step_comma (s := ⟨p, rows, cells, t⟩) hp, hrest]

theorem scan_lineOf {row : List Text} (h : row ≠ []) :
    Scan.run ⟨.outside, rows, [], []⟩ (lineOf row) = ⟨.outside, rows ++ [row], [], []⟩ := by
  obtain ⟨t, ts, rfl⟩ := List.exists_cons_of_ne_nil h
  obtain ⟨p, done, last, hp, hcells, hrun⟩ := scan_cells rows [] t ts
  rw [lineOf, Scan.run_append, hrun, Scan.run_cons, Scan.step_break (s := ⟨p, rows, done, last⟩) hp,
    Scan.run_nil]
  simp only [hcells, List.nil_append]

theorem scan_table {table : List (List Text)} (h : ∀ row ∈ table, row ≠ []) :
    Scan.run ⟨.outside, rows, [], []⟩ (table.flatMap lineOf) = ⟨.outside, rows ++ table, [], []⟩ := by
  induction table generalizing rows with
  | nil => simp
  | cons row table ih =>
    rw [List.flatMap_cons, Scan.run_append, scan_lineOf rows (h row (by simp)),
      ih _ fun r hr => h r (List.mem_cons_of_mem _ hr)]
    simp

end Written

theorem decode_flatMap_lineOf {table : List (List Text)} (h : ∀ row ∈ table, row ≠ []) :
    decode (table.flatMap lineOf) = some table := by
  have hrun : Scan.start.run (table.flatMap lineOf) = ⟨.outside, table, [], []⟩ := by
    simpa [Scan.start] using scan_table [] h
  rw [decode, hrun]

/-- The line feed that ends a row is the only one of it outside of quotes. -/
theorem unquotedBreaks_lineOf {row : List Text} (h : row ≠ []) : unquotedBreaks (lineOf row) = 1 := by
  have hrow : ∀ r ∈ [row], r ≠ [] := by simpa using h
  have hdecode : decode (lineOf row) = some [row] := by simpa using decode_flatMap_lineOf hrow
  simpa using (length_of_decode hdecode).symm

/-- A table is found again in what is written for it. -/
theorem flatMap_lineOf_injective {table other : List (List Text)} (h : ∀ row ∈ table, row ≠ [])
    (h' : ∀ row ∈ other, row ≠ []) (eq : table.flatMap lineOf = other.flatMap lineOf) : table = other := by
  have hdecode := decode_flatMap_lineOf h
  rw [eq, decode_flatMap_lineOf h'] at hdecode
  exact (Option.some.inj hdecode).symm

/-! ### Written tables -/

/-- A row of texts as a row of values. -/
def valuesOf (row : List Text) : Row := row.map Value.text

theorem line_valuesOf (σ : Store) (schema : Schema) (row : List Text) :
    line σ schema (valuesOf row) = .ok (lineOf row) := by
  have hnull : valuesOf row ≠ [Value.null] := by
    intro h
    rcases row with _ | ⟨t, _ | ⟨u, ts⟩⟩ <;> simp [valuesOf, Value.text, Value.null] at h
  have htexts : (valuesOf row).mapM (textOf σ schema) = .ok row := by
    have htext : ∀ t ∈ row, (textOf σ schema ∘ Value.text) t = .ok (id t) := fun _ _ => rfl
    rw [valuesOf, List.mapM_map, mapM_eq_ok_map htext, List.map_id]
  rw [line, if_neg hnull, htexts]
  rfl

theorem putChunks_unlimited (s : Sink) (hs : s.budget = none ∧ s.encoded = false) (ts : List Text) :
    Formatter.putChunks s (ts.map .ok) = ({ s with chunks := s.chunks ++ ts }, none) := by
  induction ts generalizing s with
  | nil => simp [Formatter.putChunks]
  | cons t ts ih =>
    obtain ⟨chunks, budget, encoded⟩ := s
    obtain ⟨rfl, rfl⟩ := hs
    have hput : Sink.put ⟨chunks, none, false⟩ t = .ok ⟨chunks ++ [t], none, false⟩ := rfl
    simp only [List.map_cons, Formatter.putChunks, hput]
    rw [ih _ ⟨rfl, rfl⟩]
    simp

section Document

variable {f : Formatter} {σ : Store} {schema : Schema} {records : List Value} {table : List (List Text)}

/-- The formatter writes the lines of a table of texts one after the other. -/
theorem write_table (csv : f.format? = some .csv)
    (rows : f.layout.rows σ schema records = .ok (table.map valuesOf)) :
    f.write σ schema records .unlimited = (⟨table.map lineOf, none, false⟩, none) := by
  have hchunks : f.chunks σ schema records = .ok ((table.map lineOf).map .ok) := by
    simp only [Formatter.chunks, csv, Formatter.chunksIn, rows, Except.map, List.map_map]
    congr 1
    exact List.map_congr_left fun row _ => line_valuesOf σ schema row
  simp only [Formatter.write, hchunks]
  exact putChunks_unlimited .unlimited ⟨rfl, rfl⟩ _

/-- What is written for a table of `k` columns decodes to the table. So two such tables are never written alike;
and each row, also the one empty cell that is written as an empty line, takes one line feed outside of quotes. -/
theorem decode_written {k : ℕ} (hk : 1 ≤ k) (csv : f.format? = some .csv)
    (rows : f.layout.rows σ schema records = .ok (table.map valuesOf)) (width : ∀ row ∈ table, row.length = k) :
    ∃ s, f.write σ schema records .unlimited = (s, none) ∧ decode s.text = some table ∧
      (∀ (g : Formatter) (σ' : Store) (schema' : Schema) (records' : List Value) (other : List (List Text)),
        g.format? = some .csv → g.layout.rows σ' schema' records' = .ok (other.map valuesOf) →
        (∀ row ∈ other, row.length = k) →
        (g.write σ' schema' records' .unlimited).1.text = s.text → other = table) ∧
      List.Forall₂ (fun row chunk => unquotedBreaks chunk = 1 ∧ (row = [[]] → chunk = [.char '\n']))
        table s.chunks ∧
      unquotedBreaks s.text = table.length := by
  have nonempty : ∀ {t : List (List Text)}, (∀ row ∈ t, row.length = k) → ∀ row ∈ t, row ≠ [] := by
    rintro t h row hrow rfl
    have := h [] hrow
    simp only [List.length_nil] at this
    omega
  have htext : Sink.text ⟨table.map lineOf, none, false⟩ = table.flatMap lineOf := by
    simp [Sink.text, List.flatMap]
  have hdecode := decode_flatMap_lineOf (nonempty width)
  refine ⟨_, write_table csv rows, by rw [htext, hdecode], ?_, ?_, ?_⟩
  · intro g σ' schema' records' other csv' rows' width' same
    rw [write_table csv' rows', htext] at same
    refine flatMap_lineOf_injective (nonempty width') (nonempty width) ?_
    simpa [Sink.text, List.flatMap] using same
  · rw [List.forall₂_map_right_iff, List.forall₂_same]
    intro row hrow
    refine ⟨unquotedBreaks_lineOf (nonempty width row hrow), ?_⟩
    rintro rfl
    rfl
  · rw [htext]
    exact (length_of_decode hdecode).symm

end Document

/-- A record whose second text is empty. -/
def notes : Store := #[.mapping "dict" [(.text "a", .text "1\n2"), (.text "b", .text [])]]

/-- A formatter whose first header holds a comma and quotes. -/
def notesFormatter : Formatter := ⟨some "csv", none, some [⟨"a", some "x,\"y\""⟩, ⟨"b", none⟩]⟩

/-- The table of this record. -/
def notesTable : List (List Text) := [["x,\"y\"", "b"], ["1\n2", []]]

theorem decode_written_notes :
    notesFormatter.format? = some .csv ∧
      notesFormatter.layout.rows notes [] [.object 0] = .ok (notesTable.map valuesOf) ∧
      (∀ row ∈ notesTable, row.length = 2) ∧
      ∃ s, notesFormatter.write notes [] [.object 0] .unlimited = (s, none) ∧ decode s.text = some notesTable := by
  have csv : notesFormatter.format? = some .csv := by decide
  have rows : notesFormatter.layout.rows notes [] [.object 0] = .ok (notesTable.map valuesOf) := rfl
  have width : ∀ row ∈ notesTable, row.length = 2 := by decide
  obtain ⟨s, hwrite, hdecode, -⟩ := decode_written (by decide) csv rows width
  exact ⟨csv, rows, width, s, hwrite, hdecode⟩

end Csv

end RecordPrint
