import RecordPrint.Json.Records
import RecordPrint.Proofs.Json.LineEnds
import RecordPrint.Proofs.Outcome
import RecordPrint.Proofs.Text.Lines
import Mathlib.Algebra.Order.BigOperators.Group.List

/-!
# Records in texts

* `readRecords_array` — objects are read back from each spelling of the array of them;
* `inputText` — a text of lines, each of which is blank or holds one object;
* `readRecords_lines_iff` — the objects are read back from their lines exactly if no separator of lines stands in one
  of their names or texts, while they are read back from their array in any case.
-/

namespace RecordPrint

namespace Json

theorem objectsFrom_map (n : Nat) (os : List JsonRecord) : objectsFrom n (os.map .object) = .ok os := by
  induction os generalizing n with
  | nil => rfl
  | cons o os ih =>
    rw [List.map_cons, objectsFrom, ih]
    rfl

theorem length_of_objectsFrom {n : Nat} {js : List Json} {os : List JsonRecord} (h : objectsFrom n js = .ok os) :
    js.length = os.length := by
  induction js generalizing n os with
  | nil =>
    cases h
    rfl
  | cons j js ih =>
    cases j with
    | leaf s => cases h
    | array items => cases h
    | object entries =>
      rw [objectsFrom] at h
      cases hrest : objectsFrom (n + 1) js with
      | error f => simp [hrest, Except.map] at h
      | ok rest =>
        simp only [hrest, Except.map, Except.ok.injEq] at h
        rw [← h, List.length_cons, List.length_cons, ih hrest]

theorem readText_spelled {sp : Spacing} (hsp : sp.Valid) {j : Json} (hj : j.WellFormed) :
    readText (spelled sp 0 j) = .ok j := by
  rw [readText, read_spelled hsp hj]
  rfl

/-- A text that begins and ends with the given code points. -/
theorem ends_of_eq {t u : Text} {first last : CodePoint} (h : t = first :: u ++ [last]) :
    t.head? = some first ∧ t.getLast? = some last := by
  rw [h]
  exact ⟨rfl, List.getLast?_concat⟩

theorem ends_array (sp : Spacing) (level : Nat) (items : List Json) :
    (spelled sp level (.array items)).head? = some (.char '[') ∧
      (spelled sp level (.array items)).getLast? = some (.char ']') := by
  cases items with
  | nil => exact ⟨rfl, rfl⟩
  | cons t ts => exact ends_of_eq (by rw [spelled]; rfl)

theorem ends_object (sp : Spacing) (level : Nat) (entries : List (Text × Json)) :
    (spelled sp level (.object entries)).head? = some (.char '{') ∧
      (spelled sp level (.object entries)).getLast? = some (.char '}') := by
  cases entries with
  | nil => exact ⟨rfl, rfl⟩
  | cons e es => exact ends_of_eq (by rw [spelled]; rfl)

/-- Objects are read back from each spelling of the array of them. -/
theorem readRecords_array {sp : Spacing} (hsp : sp.Valid) {os : List JsonRecord}
    (hos : ∀ o ∈ os, (Tree.object o).WellFormed) :
    readRecords (spelled sp 0 (.array (os.map .object))) = .ok os := by
  have hwf : (Tree.array (os.map .object)).WellFormed := by
    refine .array fun t ht => ?_
    obtain ⟨o, ho, rfl⟩ := List.mem_map.1 ht
    exact hos o ho
  obtain ⟨hfirst, hlast⟩ := ends_array sp 0 (os.map .object)
  have htrimmed : (spelled sp 0 (.array (os.map .object))).IsTrimmed := ⟨⟨_, hfirst, rfl⟩, ⟨_, hlast, rfl⟩⟩
  rw [readRecords, htrimmed.trim_eq, if_neg htrimmed.ne_nil, readItems?, inputLayout, if_pos hfirst]
  simp only [readText_spelled hsp hwf]
  exact objectsFrom_map 1 os

/-! ### Objects on lines -/

/-- A line of a text of records. -/
inductive InputLine where
  | blank (t : Text)
  | object (o : JsonRecord)

/-- A line with the given blanks between the tokens of an object. -/
def InputLine.text (sp : Spacing) : InputLine → Text
  | .blank t => t
  | .object o => spelled sp 0 (.object o)

/-- The object on a line. -/
def InputLine.record? : InputLine → Option JsonRecord
  | .blank _ => none
  | .object o => some o

/-- A text of lines, each of which ends with a line feed. -/
def inputText (sp : Spacing) (ls : List InputLine) : Text := ls.flatMap fun l => l.text sp ++ [.char '\n']

/-- A line without an object is blank, and an object is one that JSON texts denote. -/
def InputLine.Valid : InputLine → Prop
  | .blank t => t.isBlank = true
  | .object o => (Tree.object o).WellFormed

/-- The lines of a text, the blank ones left out, are those of the objects. -/
theorem contentLines_inputText (sp : Spacing) {ls : List InputLine} (hls : ∀ l ∈ ls, l.Valid) :
    (inputText sp ls).contentLines =
      (ls.filterMap InputLine.record?).flatMap fun o => (spelled sp 0 (.object o)).contentLines := by
  induction ls with
  | nil => exact Text.contentLines_nil
  | cons l ls ih =>
    have hl := hls l List.mem_cons_self
    have hrest := ih fun x hx => hls x (List.mem_cons_of_mem _ hx)
    rw [inputText, List.flatMap_cons, List.append_assoc, List.singleton_append, Text.contentLines_append]
    cases l with
    | blank t =>
      rw [InputLine.text, Text.contentLines_eq_nil_iff.2 hl]
      exact hrest
    | object o => exact congrArg ((spelled sp 0 (.object o)).contentLines ++ ·) hrest

theorem isBlank_inputText (sp : Spacing) {ls : List InputLine} (hls : ∀ l ∈ ls, l.Valid)
    (hnone : ls.filterMap InputLine.record? = []) : (inputText sp ls).isBlank = true := by
  rw [← Text.contentLines_eq_nil_iff, contentLines_inputText sp hls, hnone]
  rfl

/-- The text of some lines with an object, trimmed: it begins and ends with an object. -/
theorem exists_core (sp : Spacing) {ls : List InputLine} (hls : ∀ l ∈ ls, l.Valid)
    (hsome : ls.filterMap InputLine.record? ≠ []) : ∃ a core b : Text,
      inputText sp ls = a ++ core ++ .char '\n' :: b ∧ a.isBlank = true ∧ (a = [] ∨ ∃ a', a = a' ++ [.char '\n']) ∧
        b.isBlank = true ∧ core.head? = some (.char '{') ∧ core.getLast? = some (.char '}') := by
  induction ls with
  | nil => exact absurd rfl hsome
  | cons l ls ih =>
    have hl := hls l List.mem_cons_self
    have hrest : ∀ x ∈ ls, x.Valid := fun x hx => hls x (List.mem_cons_of_mem _ hx)
    have htext : inputText sp (l :: ls) = l.text sp ++ .char '\n' :: inputText sp ls := by
      rw [inputText, List.flatMap_cons, List.append_assoc]
      rfl
    cases l with
    | blank t =>
      obtain ⟨a, core, b, hcore, ha, hend, hb, hends⟩ := ih hrest hsome
      have hblank : (t ++ .char '\n' :: a).isBlank = true := by
        rw [Text.isBlank_append, Text.isBlank_cons, ha, (hl : t.isBlank = true)]
        rfl
      refine ⟨t ++ .char '\n' :: a, core, b, ?_, hblank, .inr ?_, hb, hends⟩
      · rw [htext, hcore]
        simp [InputLine.text]
      · rcases hend with rfl | ⟨a', rfl⟩
        · exact ⟨t, rfl⟩
        · exact ⟨t ++ .char '\n' :: a', by simp⟩
    | object o =>
      obtain ⟨hfirst, hlast⟩ := ends_object sp 0 o
      by_cases hnone : ls.filterMap InputLine.record? = []
      · exact ⟨[], spelled sp 0 (.object o), inputText sp ls, htext, rfl, .inl rfl, isBlank_inputText sp hrest hnone,
          hfirst, hlast⟩
      · obtain ⟨a, core, b, hcore, ha, -, hb, -, hlast'⟩ := ih hrest hnone
        refine ⟨[], spelled sp 0 (.object o) ++ .char '\n' :: a ++ core, b, ?_, rfl, .inl rfl, hb, ?_, ?_⟩
        · rw [htext, hcore]
          simp [InputLine.text]
        · rw [List.append_assoc, List.head?_append, hfirst]
          rfl
        · rw [List.getLast?_append, hlast']
          rfl

/-- What is read from lines, of which some hold an object: the lines that are not blank, one by one. -/
theorem readRecords_inputText (sp : Spacing) {ls : List InputLine} (hls : ∀ l ∈ ls, l.Valid)
    (hsome : ls.filterMap InputLine.record? ≠ []) : readRecords (inputText sp ls) =
      ((((ls.filterMap InputLine.record?).flatMap fun o => (spelled sp 0 (.object o)).contentLines).mapM readText).bind
        (objectsFrom 1)) := by
  obtain ⟨a, core, b, htext, ha, hend, hb, hfirst, hlast⟩ := exists_core sp hls hsome
  have htrimmed : core.IsTrimmed := ⟨⟨_, hfirst, rfl⟩, ⟨_, hlast, rfl⟩⟩
  have htrim : (inputText sp ls).trim = core := by
    rw [htext]
    exact Text.trim_append ha (by rw [Text.isBlank_cons, hb]; rfl) htrimmed
  -- what is trimmed away are blank lines, so the lines that count are the same
  have hcore : core.contentLines = (inputText sp ls).contentLines := by
    have hbehind : (core ++ .char '\n' :: b).contentLines = core.contentLines := by
      rw [Text.contentLines_append, Text.contentLines_eq_nil_iff.2 hb, List.append_nil]
    rw [htext, List.append_assoc]
    rcases hend with rfl | ⟨a', rfl⟩
    · exact hbehind.symm
    · have ha' : Text.isBlank a' = true := by
        rw [Text.isBlank_append, Bool.and_eq_true] at ha
        exact ha.1
      rw [List.append_assoc, List.singleton_append, Text.contentLines_append,
        Text.contentLines_eq_nil_iff.2 ha', hbehind]
      rfl
  have hlayout : inputLayout core = .lines := if_neg (by rw [hfirst]; decide)
  rw [readRecords, htrim, if_neg htrimmed.ne_nil, readItems?, hlayout, ← contentLines_inputText sp hls, ← hcore]
  rfl

theorem isTrimmed_object (sp : Spacing) (o : JsonRecord) : (spelled sp 0 (.object o)).IsTrimmed :=
  ⟨⟨_, (ends_object sp 0 o).1, rfl⟩, ⟨_, (ends_object sp 0 o).2, rfl⟩⟩

/-- The lines of an object: it is on one line exactly if none of its names and texts holds a separator. -/
theorem contentLines_object {sp : Spacing} (hsp : sp.OneLine) {o : JsonRecord} (ho : (Tree.object o).WellFormed) :
    ((∀ t, (Tree.object o).Holds t → ∀ c ∈ t, ¬ c.IsSeparator) →
      (spelled sp 0 (.object o)).contentLines = [spelled sp 0 (.object o)]) ∧
    (¬ (∀ t, (Tree.object o).Holds t → ∀ c ∈ t, ¬ c.IsSeparator) →
      2 ≤ (spelled sp 0 (.object o)).contentLines.length) := by
  constructor
  · intro hnone
    refine Text.contentLines_eq_singleton (fun c hc => ?_) (isTrimmed_object sp o).isBlank_eq
    rw [Bool.eq_false_iff]
    intro hend
    obtain ⟨t, hholds, hct, hsep⟩ := (mem_spelled hsp hend ho 0).1 hc
    exact hnone t hholds c hct hsep
  · intro hsome
    push Not at hsome
    obtain ⟨t, hholds, c, hct, hsep⟩ := hsome
    have hend := (CodePoint.isSeparator_iff.1 hsep).1
    exact Text.two_le_length_contentLines ((mem_spelled hsp hend ho 0).2 ⟨t, hholds, hct, hsep⟩) hend
      (isTrimmed_object sp o)

theorem one_le_length_contentLines {sp : Spacing} (hsp : sp.OneLine) {o : JsonRecord}
    (ho : (Tree.object o).WellFormed) : 1 ≤ (spelled sp 0 (.object o)).contentLines.length := by
  by_cases h : ∀ t, (Tree.object o).Holds t → ∀ c ∈ t, ¬ c.IsSeparator
  · rw [(contentLines_object hsp ho).1 h, List.length_singleton]
  · exact Nat.le_of_succ_le ((contentLines_object hsp ho).2 h)

theorem length_lt_length_flatMap {α β : Type} {f : α → List β} {l : List α} (hone : ∀ a ∈ l, 1 ≤ (f a).length)
    (htwo : ∃ a ∈ l, 2 ≤ (f a).length) : l.length < (l.flatMap f).length := by
  have hsum := List.sum_lt_sum (fun _ => 1) (fun a => (f a).length) hone htwo
  rw [List.length_flatMap]
  simpa using hsum

/-- As many objects are read from lines as there are lines that are not blank. -/
theorem length_of_mapM_readText {lines : List Text} {os : List JsonRecord}
    (h : (lines.mapM readText).bind (objectsFrom 1) = .ok os) : lines.length = os.length := by
  cases hjs : lines.mapM readText with
  | error f =>
    rw [hjs] at h
    cases h
  | ok js =>
    rw [hjs] at h
    rw [(mapM_eq_ok_iff.1 hjs).length_eq, length_of_objectsFrom h]

/-- Objects are read back from lines of their own exactly if none of their names and texts holds a separator of
lines; they are read back from each spelling of their array in any case. -/
theorem readRecords_lines_iff {sp : Spacing} (hsp : sp.OneLine) {ls : List InputLine} (hls : ∀ l ∈ ls, l.Valid) :
    (readRecords (inputText sp ls) = .ok (ls.filterMap InputLine.record?) ↔
      ∀ o ∈ ls.filterMap InputLine.record?, ∀ t, (Tree.object o).Holds t → ∀ c ∈ t, ¬ c.IsSeparator) ∧
    ∀ sp' : Spacing, sp'.Valid →
      readRecords (spelled sp' 0 (.array ((ls.filterMap InputLine.record?).map .object))) =
        .ok (ls.filterMap InputLine.record?) := by
  have hos : ∀ o ∈ ls.filterMap InputLine.record?, (Tree.object o).WellFormed := by
    intro o ho
    obtain ⟨l, hl, hlo⟩ := List.mem_filterMap.1 ho
    cases l with
    | blank t => cases hlo
    | object o' =>
      cases hlo
      exact hls _ hl
  refine ⟨?_, fun sp' hsp' => readRecords_array hsp' hos⟩
  by_cases hnone : ls.filterMap InputLine.record? = []
  · rw [hnone, readRecords, if_pos (Text.trim_of_isBlank (isBlank_inputText sp hls hnone))]
    simp
  · rw [readRecords_inputText sp hls hnone]
    generalize ls.filterMap InputLine.record? = os at hos hnone ⊢
    constructor
    · intro h
      by_contra hsome
      push Not at hsome
      obtain ⟨o, ho, t, hholds, c, hc, hsep⟩ := hsome
      -- this object takes two lines, and each of the others at least one
      have htwo := (contentLines_object hsp (hos o ho)).2 fun hno => hno t hholds c hc hsep
      have hlt := length_lt_length_flatMap (fun o ho => one_le_length_contentLines hsp (hos o ho)) ⟨o, ho, htwo⟩
      rw [length_of_mapM_readText h] at hlt
      exact Nat.lt_irrefl _ hlt
    · intro hno
      have hlines : (os.flatMap fun o => (spelled sp 0 (.object o)).contentLines) =
          os.map fun o => spelled sp 0 (.object o) := by
        rw [List.map_eq_flatMap]
        exact List.flatMap_congr fun o ho => (contentLines_object hsp (hos o ho)).1 (hno o ho)
      have hread : (os.map fun o => spelled sp 0 (.object o)).mapM readText = .ok (os.map .object) := by
        rw [List.mapM_map]
        exact mapM_eq_ok_map fun o ho => readText_spelled hsp.toValid (hos o ho)
      rw [hlines, hread]
      exact objectsFrom_map 1 os

/-- An object whose only text is a separator of lines, behind a blank line. -/
def separated : List InputLine := [.blank [], .object [("a", .leaf (.text [.char '\u2028']))]]

theorem readRecords_separated : compact.OneLine ∧ (∀ l ∈ separated, l.Valid) ∧
    readRecords (inputText compact separated) ≠ .ok (separated.filterMap InputLine.record?) := by
  have hvalid : ∀ l ∈ separated, l.Valid := by
    simp only [separated, List.mem_cons, List.not_mem_nil, or_false, forall_eq_or_imp, forall_eq]
    refine ⟨rfl, .object (List.pairwise_singleton _ _) fun e he => ?_⟩
    rw [List.mem_singleton.1 he]
    exact .leaf trivial
  refine ⟨oneLine_compact, hvalid, fun h => ?_⟩
  exact (readRecords_lines_iff oneLine_compact hvalid).1.1 h _ List.mem_cons_self [.char '\u2028']
    (.value List.mem_cons_self .leaf) _ List.mem_cons_self (.inr (.inl rfl))

end Json

end RecordPrint
