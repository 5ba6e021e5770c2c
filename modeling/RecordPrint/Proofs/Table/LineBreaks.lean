import RecordPrint.Proofs.Document.Encoding
import RecordPrint.Proofs.Table.Decoding

/-!
# Line breaks in tables

A standard reader ends a row at any line break outside of quotes: a carriage return, a line feed, or both. A cell is
written in quotes for a line feed, but not for a carriage return.

* `unquoted` — what of a text stands outside of quotes; of a written row these are the cells without quotes
  (`unquoted_lineOf`);
* `Reader` — the scan of a standard reader, which reads as the other reader does where no carriage return stands outside
  of quotes (`run_of_not_mem`), and loses each one that does (`returns_run_le`);
* `readRows_written_iff` — so a table is read back exactly if each of its cells that holds a carriage return is quoted for
  another of its code points.
-/

namespace RecordPrint

namespace Csv

/-! ### Outside of quotes -/

/-- The phase behind a text that is read from a phase on. -/
def Phase.after (p : Phase) (t : Text) : Phase := t.foldl Phase.next p

/-- What of a text stands outside of quotes if it is read from a phase on, the quotes themselves left out. -/
def unquoted : Phase → Text → Text
  | _, [] => []
  | p, c :: t => if p = .inside ∨ c = .char '"' then unquoted (p.next c) t else c :: unquoted (p.next c) t

namespace Phase

@[simp] theorem after_nil (p : Phase) : p.after [] = p := rfl

@[simp] theorem after_cons (p : Phase) (c : CodePoint) (t : Text) : p.after (c :: t) = (p.next c).after t := rfl

theorem after_append (p : Phase) (t u : Text) : p.after (t ++ u) = (p.after t).after u := by
  simp [after, List.foldl_append]

/-- Behind quotes a text goes on as outside of them. -/
theorem next_of_ne {p : Phase} (h : p ≠ inside) (c : CodePoint) : p.next c = outside.next c := by
  cases p with
  | inside => exact absurd rfl h
  | outside => rfl
  | behind => rfl

end Phase

theorem phase_run (s : Scan) (t : Text) : (s.run t).phase = s.phase.after t := by
  induction t generalizing s with
  | nil => rfl
  | cons c t ih => rw [Scan.run_cons, ih, Scan.phase_step, Phase.after_cons]

theorem unquoted_append (p : Phase) (t u : Text) : unquoted p (t ++ u) = unquoted p t ++ unquoted (p.after t) u := by
  induction t generalizing p with
  | nil => rfl
  | cons c t ih =>
    rw [List.cons_append, unquoted, unquoted, ih, Phase.after_cons]
    split <;> rfl

theorem unquoted_of_ne {p : Phase} (h : p ≠ .inside) (t : Text) : unquoted p t = unquoted .outside t := by
  cases t with
  | nil => rfl
  | cons c t => simp only [unquoted, h, Phase.next_of_ne h, reduceCtorEq]

/-! ### Written cells -/

/-- What of a cell is written outside of quotes: all of it, or nothing. -/
def bare (t : Text) : Text := if t.any needsQuotes then [] else t

theorem unquoted_plain {t : Text} (h : t.any needsQuotes = false) : unquoted .outside t = t := by
  induction t with
  | nil => rfl
  | cons c t ih =>
    rw [List.any_cons, Bool.or_eq_false_iff] at h
    have hquote : c ≠ .char '"' := by
      rintro rfl
      exact absurd h.1 (by decide)
    have hnext : Phase.outside.next c = .outside := if_neg hquote
    rw [unquoted, if_neg (by simp [hquote]), hnext, ih h.2]

theorem unquoted_doubled (t u : Text) : unquoted .inside (t.flatMap doubled ++ u) = unquoted .inside u := by
  induction t with
  | nil => rfl
  | cons c t ih =>
    rw [List.flatMap_cons, List.append_assoc, ← ih]
    by_cases hc : c = .char '"' <;> simp [doubled, hc, unquoted, Phase.next]

theorem unquoted_cell (t : Text) : unquoted .outside (cell t) = bare t := by
  unfold cell bare
  split
  · show unquoted .inside (t.flatMap doubled ++ [.char '"']) = []
    rw [unquoted_doubled]
    rfl
  · rename_i h
    exact unquoted_plain (by simpa using h)

theorem after_cell (t : Text) : Phase.outside.after (cell t) ≠ .inside := by
  obtain ⟨p, hp, hrun⟩ := scan_cell [] [] t
  have hphase := phase_run ⟨.outside, [], [], []⟩ (cell t)
  rw [hrun] at hphase
  exact hphase ▸ hp

/-! ### Written rows -/

/-- What of the cells of a row stands outside of quotes, and that the row does not end inside of them. -/
theorem unquoted_cells (row : List Text) :
    unquoted .outside (Text.join [.char ','] (row.map cell)) = Text.join [.char ','] (row.map bare) ∧
      Phase.outside.after (Text.join [.char ','] (row.map cell)) ≠ .inside := by
  induction row with
  | nil => exact ⟨rfl, by decide⟩
  | cons t row ih =>
    cases row with
    | nil => exact ⟨unquoted_cell t, after_cell t⟩
    | cons u row =>
      have hjoin : ∀ g : Text → Text, Text.join [.char ','] ((t :: u :: row).map g) =
          g t ++ .char ',' :: Text.join [.char ','] ((u :: row).map g) := by
        intro g
        simp [Text.join]
      have hnext : (Phase.outside.after (cell t)).next (.char ',') = .outside := by
        rw [Phase.next_of_ne (after_cell t)]
        rfl
      rw [hjoin, hjoin, unquoted_append, unquoted_cell, unquoted_of_ne (after_cell t), Phase.after_append,
        Phase.after_cons, hnext]
      exact ⟨congrArg (bare t ++ .char ',' :: ·) ih.1, ih.2⟩

theorem unquoted_lineOf (row : List Text) :
    unquoted .outside (lineOf row) = unquoted .outside (Text.join [.char ','] (row.map cell)) ++ [.char '\n'] := by
  rw [lineOf, unquoted_append, unquoted_of_ne (unquoted_cells row).2]
  rfl

theorem after_lineOf (row : List Text) : Phase.outside.after (lineOf row) = .outside := by
  rw [lineOf, Phase.after_append, Phase.after_cons, Phase.next_of_ne (unquoted_cells row).2]
  rfl

theorem unquoted_table (table : List (List Text)) :
    unquoted .outside (table.flatMap lineOf) = table.flatMap fun row => unquoted .outside (lineOf row) := by
  induction table with
  | nil => rfl
  | cons row table ih => rw [List.flatMap_cons, List.flatMap_cons, unquoted_append, after_lineOf, ih]

/-! ### Carriage returns -/

/-- Each cell of a row that holds a carriage return holds a code point for which it is quoted. -/
def ReturnsQuoted (row : List Text) : Prop :=
  ∀ t ∈ row, .char '\r' ∈ t → ∃ c ∈ t, c = .char ',' ∨ c = .char '"' ∨ c = .char '\n'

theorem any_needsQuotes_iff {t : Text} :
    t.any needsQuotes = true ↔ ∃ c ∈ t, c = .char ',' ∨ c = .char '"' ∨ c = .char '\n' := by
  simp [needsQuotes, or_assoc]

theorem mem_join_iff {c : CodePoint} (hc : c ≠ .char ',') (ts : List Text) :
    c ∈ Text.join [.char ','] ts ↔ ∃ t ∈ ts, c ∈ t := by
  induction ts with
  | nil => simp [Text.join]
  | cons t ts ih =>
    cases ts with
    | nil => simp [Text.join]
    | cons u ts =>
      rw [Text.join, List.mem_append, List.mem_append, ih, List.mem_singleton, List.exists_mem_cons_iff]
      · simp [hc]
      · simp

theorem mem_bare_iff {c : CodePoint} {t : Text} : c ∈ bare t ↔ c ∈ t ∧ ¬ t.any needsQuotes := by
  unfold bare
  split <;> simp_all

theorem mem_unquoted_cells_iff {c : CodePoint} (hc : c ≠ .char ',') (row : List Text) :
    c ∈ unquoted .outside (Text.join [.char ','] (row.map cell)) ↔ ∃ t ∈ row, c ∈ t ∧ ¬ t.any needsQuotes := by
  rw [(unquoted_cells row).1, mem_join_iff hc]
  simp only [List.mem_map, exists_exists_and_eq_and, mem_bare_iff]

theorem return_not_mem_cells_iff (row : List Text) :
    .char '\r' ∉ unquoted .outside (Text.join [.char ','] (row.map cell)) ↔ ReturnsQuoted row := by
  rw [mem_unquoted_cells_iff (by decide)]
  unfold ReturnsQuoted
  constructor
  · intro h t ht hreturn
    rw [← any_needsQuotes_iff]
    by_contra hplain
    exact h ⟨t, ht, hreturn, hplain⟩
  · rintro h ⟨t, ht, hreturn, hplain⟩
    exact hplain (any_needsQuotes_iff.2 (h t ht hreturn))

/-- A cell is quoted for each of its line feeds. -/
theorem break_not_mem_cells (row : List Text) :
    .char '\n' ∉ unquoted .outside (Text.join [.char ','] (row.map cell)) := by
  rw [mem_unquoted_cells_iff (by decide)]
  rintro ⟨t, -, hbreak, hplain⟩
  exact hplain (any_needsQuotes_iff.2 ⟨_, hbreak, .inr (.inr rfl)⟩)

/-- No line feed of a cell stands outside of quotes. Its carriage returns do, unless it is quoted for something else. -/
theorem unbroken_iff (row : List Text) :
    (∀ c ∈ unquoted .outside (Text.join [.char ','] (row.map cell)), c ≠ .char '\r' ∧ c ≠ .char '\n') ↔
      ReturnsQuoted row := by
  rw [← return_not_mem_cells_iff]
  constructor
  · intro h hreturn
    exact (h _ hreturn).1 rfl
  · intro h c hc
    refine ⟨?_, ?_⟩
    · rintro rfl
      exact h hc
    · rintro rfl
      exact break_not_mem_cells row hc

theorem return_not_mem_table_iff (table : List (List Text)) :
    .char '\r' ∉ unquoted .outside (table.flatMap lineOf) ↔ ∀ row ∈ table, ReturnsQuoted row := by
  simp only [unquoted_table, List.mem_flatMap, not_exists, not_and]
  refine forall₂_congr fun row _ => ?_
  rw [← return_not_mem_cells_iff, unquoted_lineOf, List.mem_append, List.mem_singleton]
  simp

/-! ### A standard reader -/

/-- The state of a reader for which a carriage return ends a row too: the scan, and whether a carriage return ended a row
just before. -/
structure Reader where
  scan : Scan
  ended : Bool
  /-- A row ends outside of quotes. -/
  outside : ended = true → scan.phase = .outside

namespace Reader

/-- The state in front of a text. -/
def start : Reader := ⟨.start, false, nofun⟩

/-- One code point. Outside of quotes a carriage return ends a row, and a line feed right behind it belongs to the same
line break. -/
def step (r : Reader) (c : CodePoint) : Reader :=
  if h : c = .char '\r' ∧ r.scan.phase ≠ .inside then
    ⟨r.scan.step (.char '\n'), true, fun _ => by rw [Scan.step_break h.2]⟩
  else if c = .char '\n' ∧ r.ended = true then ⟨r.scan, false, nofun⟩
  else ⟨r.scan.step c, false, nofun⟩

/-- The state behind a text. -/
def run (r : Reader) (t : Text) : Reader := t.foldl step r

@[simp] theorem run_nil (r : Reader) : r.run [] = r := rfl

@[simp] theorem run_cons (r : Reader) (c : CodePoint) (t : Text) : r.run (c :: t) = (r.step c).run t := rfl

end Reader

/-- The rows that a scan has read, if it stands behind a row. -/
def Scan.finished? : Scan → Option (List (List Text))
  | ⟨.outside, rows, [], []⟩ => some rows
  | _ => none

theorem decode_eq (t : Text) : decode t = (Scan.start.run t).finished? := by
  unfold decode Scan.finished?
  rfl

/-- The rows that a standard reader finds in a text that ends with a row. -/
def readRows (t : Text) : Option (List (List Text)) := (Reader.start.run t).scan.finished?

namespace Reader

/-! ### Without carriage returns -/

theorem step_of_ne {r : Reader} {c : CodePoint} (hended : r.ended = false)
    (hreturn : r.scan.phase ≠ .inside → c ≠ .char '\r') : r.step c = ⟨r.scan.step c, false, nofun⟩ := by
  have hne : ¬ (c = .char '\r' ∧ r.scan.phase ≠ .inside) := fun h => hreturn h.2 h.1
  rw [step, dif_neg hne, if_neg (by simp [hended])]

/-- Where no carriage return stands outside of quotes the reader reads as the scan does. -/
theorem run_of_not_mem {r : Reader} {t : Text} (hended : r.ended = false)
    (h : .char '\r' ∉ unquoted r.scan.phase t) : (r.run t).scan = r.scan.run t := by
  induction t generalizing r with
  | nil => rfl
  | cons c t ih =>
    rw [unquoted] at h
    have hreturn : r.scan.phase ≠ .inside → c ≠ .char '\r' := by
      rintro hphase rfl
      rw [if_neg (by simp [hphase])] at h
      exact h List.mem_cons_self
    have hrest : .char '\r' ∉ unquoted (r.scan.phase.next c) t := by
      split at h
      · exact h
      · exact fun hmem => h (List.mem_cons_of_mem _ hmem)
    rw [run_cons, step_of_ne hended hreturn, ih rfl (by rwa [Scan.phase_step]), Scan.run_cons]

end Reader

/-! ### Counting carriage returns -/

/-- The number of carriage returns. -/
def returns (t : Text) : ℕ := t.count (.char '\r')

theorem returns_append (t u : Text) : returns (t ++ u) = returns t + returns u := List.count_append

theorem returns_cons (c : CodePoint) (t : Text) : returns (c :: t) = returns [c] + returns t :=
  returns_append [c] t

theorem returns_singleton_of_ne {c : CodePoint} (h : c ≠ .char '\r') : returns [c] = 0 :=
  List.count_eq_zero.2 (by simpa using h.symm)

theorem returns_eq_zero_iff {t : Text} : returns t = 0 ↔ .char '\r' ∉ t := List.count_eq_zero

/-- All that a scan has taken into cells so far. -/
def Scan.content (s : Scan) : Text := s.rows.flatten.flatten ++ s.cells.flatten ++ s.cell

/-- A code point is taken into the cell, or is a quote, a comma or the end of a row. -/
theorem content_step (s : Scan) (c : CodePoint) :
    (s.step c).content = s.content ∨ (s.step c).content = s.content ++ [c] := by
  obtain ⟨p, rows, cells, cell⟩ := s
  cases p <;> simp only [Scan.step, Scan.content] <;> split_ifs <;> simp

theorem returns_step_le (s : Scan) (c : CodePoint) : returns (s.step c).content ≤ returns s.content + returns [c] := by
  rcases content_step s c with h | h
  · rw [h]
    omega
  · exact Nat.le_of_eq (by rw [h, returns_append])

namespace Reader

theorem phase_step (r : Reader) (c : CodePoint) : (r.step c).scan.phase = r.scan.phase.next c := by
  unfold step
  split
  · rename_i h
    obtain ⟨rfl, hphase⟩ := h
    show (r.scan.step (.char '\n')).phase = _
    rw [Phase.next_of_ne hphase, Scan.step_break hphase]
    rfl
  · split
    · -- the line feed of a line break of two code points, which changes nothing
      rename_i h
      rw [h.1, r.outside h.2]
      rfl
    · exact Scan.phase_step _ _

/-- A carriage return outside of quotes is taken into no cell. -/
theorem returns_step_le (r : Reader) (c : CodePoint) :
    returns (r.step c).scan.content + (if r.scan.phase = .inside ∨ c = .char '"' then 0 else returns [c]) ≤
      returns r.scan.content + returns [c] := by
  have hbreak : returns [.char '\n'] = 0 := rfl
  have hplain := Csv.returns_step_le r.scan c
  have hended := Csv.returns_step_le r.scan (.char '\n')
  unfold step
  split
  · split <;> simp only <;> omega
  · rename_i hne
    have hnone : (if r.scan.phase = .inside ∨ c = .char '"' then 0 else returns [c]) = 0 := by
      split
      · rfl
      · rename_i hphase
        exact returns_singleton_of_ne fun hc => hne ⟨hc, fun h => hphase (.inl h)⟩
    rw [hnone]
    split <;> simp only <;> omega

/-- The carriage returns outside of quotes are in no cell that is read. -/
theorem returns_run_le (r : Reader) (t : Text) :
    returns (r.run t).scan.content + returns (unquoted r.scan.phase t) ≤ returns r.scan.content + returns t := by
  induction t generalizing r with
  | nil => exact Nat.le_refl _
  | cons c t ih =>
    have hrest := ih (r.step c)
    have hstep := r.returns_step_le c
    rw [phase_step] at hrest
    rw [run_cons, unquoted, returns_cons c t]
    split
    · rename_i h
      rw [if_pos h] at hstep
      omega
    · rename_i h
      rw [if_neg h] at hstep
      rw [returns_cons]
      omega

end Reader

/-! ### Carriage returns of written rows -/

theorem returns_doubled (t : Text) : returns (t.flatMap doubled) = returns t := by
  induction t with
  | nil => rfl
  | cons c t ih =>
    rw [List.flatMap_cons, returns_append, ih, returns_cons c t]
    by_cases hc : c = .char '"'
    · subst hc
      rfl
    · rw [doubled, if_neg hc]

theorem returns_cell (t : Text) : returns (cell t) = returns t := by
  unfold cell
  split
  · have hquote : returns [.char '"'] = 0 := rfl
    rw [quoted, List.cons_append, returns_cons, returns_append, returns_doubled, hquote]
    omega
  · rfl

theorem returns_join (ts : List Text) : returns (Text.join [.char ','] ts) = returns ts.flatten := by
  induction ts with
  | nil => rfl
  | cons t ts ih =>
    cases ts with
    | nil => simp [Text.join]
    | cons u ts =>
      have hcomma : returns [.char ','] = 0 := rfl
      have hjoin : Text.join [.char ','] (t :: u :: ts) = t ++ [.char ','] ++ Text.join [.char ','] (u :: ts) := rfl
      have hflatten : (t :: u :: ts).flatten = t ++ (u :: ts).flatten := rfl
      rw [hjoin, hflatten, returns_append, returns_append, returns_append t, hcomma, ih]
      omega

theorem returns_cells (row : List Text) : returns (row.map cell).flatten = returns row.flatten := by
  induction row with
  | nil => rfl
  | cons t row ih =>
    rw [List.map_cons, List.flatten_cons, returns_append, returns_cell, ih, List.flatten_cons, returns_append]

theorem returns_lineOf (row : List Text) : returns (lineOf row) = returns row.flatten := by
  rw [lineOf, returns_append, returns_join, returns_cells]
  rfl

theorem returns_table (table : List (List Text)) : returns (table.flatMap lineOf) = returns table.flatten.flatten := by
  induction table with
  | nil => rfl
  | cons row table ih =>
    rw [List.flatMap_cons, returns_append, returns_lineOf, ih, List.flatten_cons, List.flatten_append, returns_append]

/-! ### Reading a table back -/

/-- A row as it is read back. An empty line is one empty cell, also if it is written for no cell. -/
def seen (row : List Text) : List Text := if row = [] then [[]] else row

theorem seen_ne_nil (row : List Text) : seen row ≠ [] := by
  unfold seen
  split
  · simp
  · assumption

theorem lineOf_seen (row : List Text) : lineOf (seen row) = lineOf row := by
  unfold seen
  split
  · rename_i h
    rw [h]
    rfl
  · rfl

theorem flatten_seen (row : List Text) : (seen row).flatten = row.flatten := by
  unfold seen
  split
  · rename_i h
    rw [h]
    rfl
  · rfl

theorem decode_table (table : List (List Text)) : decode (table.flatMap lineOf) = some (table.map seen) := by
  have hlines : table.flatMap lineOf = (table.map seen).flatMap lineOf := by
    rw [List.flatMap_map]
    exact List.flatMap_congr fun row _ => (lineOf_seen row).symm
  rw [hlines]
  apply decode_flatMap_lineOf
  simp only [List.mem_map, forall_exists_index, and_imp, forall_apply_eq_imp_iff₂]
  exact fun row _ => seen_ne_nil row

theorem content_of_finished {s : Scan} {rows : List (List Text)} (h : s.finished? = some rows) :
    s.content = rows.flatten.flatten := by
  unfold Scan.finished? at h
  split at h
  · cases h
    simp [Scan.content]
  · cases h

theorem flatten_map_seen (table : List (List Text)) : (table.map seen).flatten.flatten = table.flatten.flatten := by
  induction table with
  | nil => rfl
  | cons row table ih =>
    rw [List.map_cons, List.flatten_cons, List.flatten_append, ih, flatten_seen, List.flatten_cons, List.flatten_append]

/-- A standard reader finds the rows that were written exactly if each cell with a carriage return is quoted. -/
theorem readRows_table_iff (table : List (List Text)) :
    readRows (table.flatMap lineOf) = some (table.map seen) ↔ ∀ row ∈ table, ReturnsQuoted row := by
  rw [← return_not_mem_table_iff]
  constructor
  · -- a carriage return outside of quotes is in no cell that is read, but each one that is written is in a cell
    intro h
    have hle := Reader.start.returns_run_le (table.flatMap lineOf)
    rw [content_of_finished h, flatten_map_seen, returns_table] at hle
    have hstart : returns Reader.start.scan.content = 0 := rfl
    have hphase : Reader.start.scan.phase = .outside := rfl
    rw [hphase] at hle
    exact returns_eq_zero_iff.1 (by omega)
  · intro h
    have hrun : (Reader.start.run (table.flatMap lineOf)).scan = Scan.start.run (table.flatMap lineOf) :=
      Reader.run_of_not_mem rfl h
    rw [readRows, hrun, ← decode_eq, decode_table]

section Document

variable {f : Formatter} {σ : Store} {schema : Schema} {records : List Value} {table : List (List Text)}

/-- What is written for a table of texts is a line for the header and one for each record. A line ends with a line feed
outside of quotes, and has no other line break there exactly if each cell that holds a carriage return is quoted for a
comma, a quote or a line feed. A standard reader finds the rows of the table exactly if this holds of all of them. -/
theorem readRows_written_iff (csv : f.format? = some .csv)
    (rows : f.layout.rows σ schema records = .ok (table.map valuesOf)) :
    table.length = records.length + 1 ∧
      ∃ s, f.write σ schema records .unlimited = (s, none) ∧
        List.Forall₂ (fun row chunk => ∃ body, chunk = body ++ [.char '\n'] ∧
            unquoted .outside chunk = unquoted .outside body ++ [.char '\n'] ∧
            ((∀ c ∈ unquoted .outside body, c ≠ .char '\r' ∧ c ≠ .char '\n') ↔ ReturnsQuoted row)) table s.chunks ∧
        unquoted .outside s.text = s.chunks.flatMap (unquoted .outside) ∧
        (readRows s.text = some (table.map seen) ↔ ∀ row ∈ table, ReturnsQuoted row) := by
  have hlength := Layout.length_of_rows rows
  rw [List.length_map] at hlength
  have htext : Sink.text ⟨table.map lineOf, none, false⟩ = table.flatMap lineOf := by
    simp [Sink.text, List.flatMap]
  refine ⟨hlength, _, write_table csv rows, ?_, ?_, ?_⟩
  · rw [List.forall₂_map_right_iff, List.forall₂_same]
    exact fun row _ => ⟨_, rfl, unquoted_lineOf row, unbroken_iff row⟩
  · rw [htext, unquoted_table, List.flatMap_map]
  · rw [htext]
    exact readRows_table_iff table

end Document

/-- A record whose text holds a carriage return. -/
def carriage : Store := #[.mapping "dict" [(.text "a", .text "x\ry")]]

/-- The table of this record. -/
def carriageTable : List (List Text) := [["a"], ["x\ry"]]

theorem readRows_written_carriage :
    (⟨some "csv", none, none⟩ : Formatter).format? = some .csv ∧
      Layout.rows ⟨none, none⟩ carriage [] [.object 0] = .ok (carriageTable.map valuesOf) ∧
      ∃ s, (⟨some "csv", none, none⟩ : Formatter).write carriage [] [.object 0] .unlimited = (s, none) ∧
        readRows s.text ≠ some (carriageTable.map seen) := by
  have csv : (⟨some "csv", none, none⟩ : Formatter).format? = some .csv := by decide
  have rows : Layout.rows ⟨none, none⟩ carriage [] [.object 0] = .ok (carriageTable.map valuesOf) := rfl
  obtain ⟨-, s, hwrite, -, -, hiff⟩ := readRows_written_iff (f := ⟨some "csv", none, none⟩) csv rows
  refine ⟨csv, rows, s, hwrite, ?_⟩
  rw [ne_eq, hiff]
  intro h
  obtain ⟨c, hc, hquoted⟩ := h ["x\ry"] (by decide) "x\ry" (by decide) (by decide)
  revert c
  decide

end Csv

end RecordPrint
