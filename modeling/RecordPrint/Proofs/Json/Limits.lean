import RecordPrint.Json.Records
import RecordPrint.Proofs.Json.Spelling
import RecordPrint.Proofs.Outcome
import RecordPrint.Proofs.Text.Lines

/-!
# Integers with too many digits

A reader of JSON goes on in what is left of the text, and where it refuses an integer for the number of its digits,
these digits stand in the text.

* `ReadsIn` — a reading of a text, by its outcome; `readValue_readsIn` — the reader of values;
* `readRecords_tooLong` — records are only refused for the number of digits if there are so many in the text.
-/

namespace RecordPrint

open Numeral (IsDigits digitLimit)

namespace Json

/-- Some number of digits, more than are converted, stand in a text one after the other. -/
def LongDigits (n : Nat) (t : Text) : Prop := digitLimit < n ∧ ∃ ds : Text, IsDigits ds ∧ ds.length = n ∧ ds <:+: t

theorem LongDigits.mono {n : Nat} {t u : Text} (h : LongDigits n t) (htu : t <:+: u) : LongDigits n u := by
  obtain ⟨hlimit, ds, hds, hlen, hin⟩ := h
  exact ⟨hlimit, ds, hds, hlen, hin.trans htu⟩

/-! ### Readings -/

/-- The outcome of reading a text from its start: what is left is the end of the text, and digits that are too many
stand in it. -/
def ReadsIn {α : Type} (t : Text) : Except JsonFault (α × Cursor) → Prop
  | .ok (_, behind) => behind.rest <:+ t
  | .error (.tooLong n) => LongDigits n t
  | .error (.malformed _ _) => True

namespace ReadsIn

variable {α β : Type} {t u : Text} {r : Except JsonFault (α × Cursor)}

theorem mono (h : ReadsIn t r) (htu : t <:+ u) : ReadsIn u r := by
  rcases r with (⟨problem, offset⟩ | n) | ⟨a, behind⟩
  · trivial
  · exact LongDigits.mono h htu.isInfix
  · exact List.IsSuffix.trans h htu

theorem map (h : ReadsIn t r) (f : α → β) : ReadsIn t (r.map fun p => (f p.1, p.2)) := by
  rcases r with (⟨problem, offset⟩ | n) | ⟨a, behind⟩
  · trivial
  · exact h
  · exact h

/-- A reading that goes on behind another one. -/
theorem bind (h : ReadsIn t r) {f : α × Cursor → Except JsonFault (β × Cursor)}
    (hf : ∀ a behind, r = .ok (a, behind) → ReadsIn behind.rest (f (a, behind))) : ReadsIn t (r.bind f) := by
  rcases r with (⟨problem, offset⟩ | n) | ⟨a, behind⟩
  · trivial
  · exact h
  · exact (hf a behind rfl).mono h

end ReadsIn

/-! ### Cursors and strings -/

theorem advance_suffix (n : Nat) (c : Cursor) : (c.advance n).rest <:+ c.rest := List.drop_suffix _ _

theorem skipSpace_suffix (c : Cursor) : c.skipSpace.rest <:+ c.rest := advance_suffix _ c

/-- Behind a code point that blanks stand in front of. -/
theorem token_suffix (c : Cursor) : (c.skipSpace.advance 1).rest <:+ c.rest :=
  (advance_suffix 1 _).trans (skipSpace_suffix c)

/-- Behind a code point that blanks stand around. -/
theorem separator_suffix (c : Cursor) : (c.skipSpace.advance 1).skipSpace.rest <:+ c.rest :=
  (skipSpace_suffix _).trans (token_suffix c)

theorem suffix_of_drop {t u : Text} (n : Nat) (h : u.drop n = t) : t <:+ u := h ▸ List.drop_suffix n u

theorem readsIn_andThen {t : Text} {r : Except JsonFault (Text × Cursor)} (h : ReadsIn t r) (c : CodePoint) :
    ReadsIn t (andThen c r) := h.map (c :: ·)

theorem readString_readsIn (start i : Nat) (t : Text) : ReadsIn t (readString start i t) := by
  fun_induction readString start i t with
  | case1 | case3 | case4 | case6 | case8 | case9 | case11 => trivial
  | case2 i rest => exact List.suffix_cons _ _
  | case5 i a b c d e rest n _ m _ ih =>
    exact readsIn_andThen (ih.mono (suffix_of_drop 12 rfl)) _
  | case7 i a b c d e rest n _ _ ih =>
    exact readsIn_andThen (ih.mono (suffix_of_drop 6 rfl)) _
  | case10 i c rest _ _ c' _ ih => exact readsIn_andThen (ih.mono (suffix_of_drop 2 rfl)) _
  | case12 i c rest _ _ _ _ _ _ ih => exact readsIn_andThen (ih.mono (List.suffix_cons c rest)) _

/-! ### Numbers -/

theorem number_tooLong {negative : Bool} {integer fraction : Text} {exponent : Option Int} {n : Nat}
    (h : number negative integer fraction exponent = .error (.tooLong n)) :
    digitLimit < n ∧ integer.length = n := by
  unfold number at h
  split at h
  · split at h
    · rename_i hlimit
      cases h
      exact ⟨hlimit, rfl⟩
    · cases h
  · cases h

theorem number_not_malformed {negative : Bool} {integer fraction : Text} {exponent : Option Int}
    {problem : SyntaxProblem} {offset : Nat} :
    number negative integer fraction exponent ≠ .error (.malformed problem offset) := by
  unfold number
  split
  · split <;> simp
  · simp

/-- The integer part of a number is made of the first digits of the text. -/
theorem cutInteger?_spec {t integer behind : Text} (h : cutInteger? t = some (integer, behind)) :
    IsDigits integer ∧ integer <+: t := by
  unfold cutInteger? at h
  split at h
  · cases h
    refine ⟨?_, List.prefix_append [CodePoint.char '0'] _⟩
    intro c hc
    rw [List.mem_singleton.1 hc]
    rfl
  · split at h
    · cases h
    · cases h
      exact ⟨fun c hc => List.mem_takeWhile_imp hc, List.takeWhile_prefix _⟩

theorem readNumber_readsIn (c : Cursor) : ReadsIn c.rest (readNumber c) := by
  have hunsigned : (if c.rest.head? = some (.char '-') then c.rest.tail else c.rest) <:+ c.rest := by
    split
    · exact List.tail_suffix _
    · exact List.suffix_refl _
  unfold readNumber
  dsimp only
  split
  · trivial
  · rename_i integer behind hcut
    obtain ⟨hdigits, hprefix⟩ := cutInteger?_spec hcut
    cases hnumber : number (decide (c.rest.head? = some (.char '-'))) integer (cutFraction behind).1
        (cutExponent (cutFraction behind).2).1 with
    | ok s => exact advance_suffix _ c
    | error f =>
      cases f with
      | malformed problem offset => exact absurd hnumber number_not_malformed
      | tooLong n =>
        obtain ⟨hlimit, hlen⟩ := number_tooLong hnumber
        exact ⟨hlimit, integer, hdigits, hlen, hprefix.isInfix.trans hunsigned.isInfix⟩

theorem readPlain_readsIn (c : Cursor) : ReadsIn c.rest (readPlain c) := by
  unfold readPlain
  split
  · exact advance_suffix _ c
  · exact readNumber_readsIn c

/-! ### Values -/

section Values

variable {fuel : Nat}

theorem readsIn_value (hitems : ∀ c, ReadsIn c.rest (readItems fuel c))
    (hentries : ∀ before c, ReadsIn c.rest (readEntries fuel before c)) (c : Cursor) :
    ReadsIn c.rest (readValue (fuel + 1) c) := by
  have hinside : (c.advance 1).skipSpace.rest <:+ c.rest := (skipSpace_suffix _).trans (advance_suffix 1 c)
  rw [readValue]
  split
  · rename_i rest hrest
    rw [hrest]
    exact ((readString_readsIn _ _ rest).map fun t => Tree.leaf (Scalar.text t)).mono (List.suffix_cons _ _)
  · dsimp only
    split
    · exact (advance_suffix 1 _).trans hinside
    · exact ((hitems _).map _).mono hinside
  · dsimp only
    split
    · exact (advance_suffix 1 _).trans hinside
    · exact ((hentries [] _).map _).mono hinside
  · exact (readPlain_readsIn c).map _

theorem readsIn_items (hvalue : ∀ c, ReadsIn c.rest (readValue fuel c))
    (hitems : ∀ c, ReadsIn c.rest (readItems fuel c)) (c : Cursor) : ReadsIn c.rest (readItems (fuel + 1) c) := by
  rw [readItems]
  refine (hvalue c).bind ?_
  intro item behind _
  dsimp only
  split
  · exact token_suffix behind
  · refine ((hitems _).mono (separator_suffix behind)).bind ?_
    intro items behind _
    exact List.suffix_refl _
  · trivial

theorem readsIn_entries (hvalue : ∀ c, ReadsIn c.rest (readValue fuel c))
    (hentries : ∀ before c, ReadsIn c.rest (readEntries fuel before c)) (before : List (Text × Json)) (c : Cursor) :
    ReadsIn c.rest (readEntries (fuel + 1) before c) := by
  rw [readEntries]
  split
  · rename_i rest hrest
    rw [hrest]
    refine ((readString_readsIn _ _ rest).mono (List.suffix_cons _ _)).bind ?_
    intro name behind _
    dsimp only
    split
    · refine ((hvalue _).mono (separator_suffix behind)).bind ?_
      intro value behind _
      dsimp only
      split
      · exact token_suffix behind
      · exact (hentries _ _).mono (separator_suffix behind)
      · trivial
    · trivial
  · trivial

theorem readValue_readsIn (fuel : Nat) : (∀ c, ReadsIn c.rest (readValue fuel c)) ∧
    (∀ c, ReadsIn c.rest (readItems fuel c)) ∧ ∀ before c, ReadsIn c.rest (readEntries fuel before c) := by
  -- on the fuel, for the three readers at once: each of them calls the others with one unit less
  induction fuel with
  | zero => exact ⟨fun _ => trivial, fun _ => trivial, fun _ _ => trivial⟩
  | succ fuel ih =>
    obtain ⟨hvalue, hitems, hentries⟩ := ih
    exact ⟨readsIn_value hitems hentries, readsIn_items hvalue hitems, readsIn_entries hvalue hentries⟩

end Values

/-! ### Texts of records -/

theorem read_tooLong {t : Text} {n : Nat} (h : read t = .error (.tooLong n)) : LongDigits n t := by
  unfold read at h
  dsimp only at h
  split at h
  · cases h
  · rcases bind_eq_error_iff.1 h with hvalue | ⟨⟨value, behind⟩, -, h⟩
    · have hreads := (readValue_readsIn (2 * t.length + 2)).1 (Cursor.skipSpace ⟨t, 0⟩)
      rw [hvalue] at hreads
      exact LongDigits.mono hreads (skipSpace_suffix ⟨t, 0⟩).isInfix
    · dsimp only at h
      split at h <;> cases h

theorem readText_tooLong {t line : Text} {n : Nat} (h : readText t = .error (.json line (.tooLong n))) :
    LongDigits n t := by
  unfold readText at h
  cases hread : read t with
  | ok j =>
    rw [hread] at h
    cases h
  | error f =>
    rw [hread] at h
    cases h
    exact read_tooLong hread

theorem objectsFrom_not_json {index : Nat} {js : List Json} {line : Text} {f : JsonFault} :
    objectsFrom index js ≠ .error (.json line f) := by
  induction js generalizing index with
  | nil => simp [objectsFrom]
  | cons j js ih =>
    cases j with
    | object entries =>
      rw [objectsFrom, ne_eq, map_eq_error_iff]
      exact ih
    | leaf s => simp [objectsFrom]
    | array items => simp [objectsFrom]

/-- Records are only refused for a number of digits if that many stand in the text one after the other. -/
theorem readRecords_tooLong {t line : Text} {n : Nat} (h : readRecords t = .error (.json line (.tooLong n))) :
    LongDigits n t := by
  unfold readRecords at h
  split at h
  · cases h
  · rcases bind_eq_error_iff.1 h with hitems | ⟨js, -, hobjects⟩
    · refine LongDigits.mono ?_ (Text.trim_infix t)
      unfold readItems? at hitems
      split at hitems
      · exact readText_tooLong (map_eq_error_iff.1 hitems)
      · obtain ⟨l, hl, hline⟩ := exists_of_mapM_eq_error hitems
        exact (readText_tooLong hline).mono (Text.infix_of_mem_lines (List.mem_filter.1 hl).1)
    · exact absurd hobjects objectsFrom_not_json

/-! ### An integer that is refused -/

/-- An integer with too many digits is refused for their number. -/
theorem readValue_long {ds rest : Text} (hds : IsDigits ds) (hlead : ds.head? ≠ some (.char '0'))
    (hlong : digitLimit < ds.length) (hrest : Stops rest) (fuel i : Nat) :
    readValue (fuel + 1) ⟨ds ++ rest, i⟩ = .error (.tooLong ds.length) := by
  have hne : ds ≠ [] := by
    rintro rfl
    cases hlong
  have hvalid : NumeralParts.Valid ⟨ds, [], none⟩ :=
    ⟨hds, hne, fun h => absurd h hlead, fun c hc => absurd hc List.not_mem_nil⟩
  have hplain := readPlain_text false hvalid hrest i
  have htext : minus false ++ NumeralParts.text ⟨ds, [], none⟩ = ds := by
    simp [minus, NumeralParts.text, NumeralParts.fractionText]
  rw [htext, number, if_pos ⟨rfl, rfl⟩, if_pos hlong] at hplain
  obtain ⟨c, u, rfl⟩ := List.exists_cons_of_ne_nil hne
  rw [List.cons_append, readValue_plain (.inl (hds c List.mem_cons_self)), ← List.cons_append, hplain]
  rfl

/-- An object whose only entry is an integer of `n` digits. -/
def longEntry (n : Nat) : Text :=
  .char '{' :: .char '"' :: .char 'a' :: .char '"' :: .char ':' :: (List.replicate n (.char '1') ++ [.char '}'])

section LongEntry

variable {n : Nat}

theorem isDigits_ones : IsDigits (List.replicate n (.char '1')) := by
  intro c hc
  rw [List.eq_of_mem_replicate hc]
  rfl

theorem readValue_ones (hn : digitLimit < n) (fuel i : Nat) :
    readValue (fuel + 1) ⟨List.replicate n (.char '1') ++ [.char '}'], i⟩ = .error (.tooLong n) := by
  have hlead : (List.replicate n (.char '1') : Text).head? ≠ some (.char '0') := by
    intro h
    exact absurd (List.eq_of_mem_replicate (List.mem_of_head? h)) (by decide)
  have hlen : (List.replicate n (.char '1') : Text).length = n := List.length_replicate
  have hlong : digitLimit < (List.replicate n (.char '1') : Text).length := hlen.symm ▸ hn
  rw [readValue_long isDigits_ones hlead hlong (stops_cons (by decide)), hlen]

theorem skipSpace_ones (hn : 0 < n) (i : Nat) :
    Cursor.skipSpace ⟨List.replicate n (.char '1') ++ [.char '}'], i⟩ =
      ⟨List.replicate n (.char '1') ++ [.char '}'], i⟩ := by
  obtain ⟨m, rfl⟩ := Nat.exists_eq_add_of_lt hn
  exact skipSpace_cons (by decide) _ i

/-- The entries of the object, behind its bracket. -/
theorem readEntries_longEntry (hn : digitLimit < n) (fuel : Nat) :
    readEntries (fuel + 2) [] ⟨(longEntry n).tail, 1⟩ = .error (.tooLong n) := by
  let entry : Text := List.replicate n (.char '1') ++ [.char '}']
  have hname : readString 1 2 (.char 'a' :: .char '"' :: .char ':' :: entry) =
      .ok ("a", ⟨.char ':' :: entry, 4⟩) := readString_quote 1 "a" _
  have hcolon : Cursor.skipSpace ⟨.char ':' :: entry, 4⟩ = ⟨.char ':' :: entry, 4⟩ :=
    skipSpace_cons (by decide) _ 4
  have hdigits : Cursor.skipSpace (Cursor.advance 1 ⟨.char ':' :: entry, 4⟩) = ⟨entry, 5⟩ :=
    skipSpace_ones (Nat.zero_lt_of_lt hn) 5
  have hvalue : readValue (fuel + 1) ⟨entry, 5⟩ = .error (.tooLong n) := readValue_ones hn fuel 5
  show readEntries (fuel + 2) [] ⟨.char '"' :: .char 'a' :: .char '"' :: .char ':' :: entry, 1⟩ = _
  rw [readEntries]
  simp only [hname, bind, Except.bind, hcolon, hdigits, hvalue]

theorem read_longEntry (hn : digitLimit < n) : read (longEntry n) = .error (.tooLong n) := by
  have hmark : ¬ (longEntry n).head? = some (.char '\uFEFF') := by
    show ¬ some (CodePoint.char '{') = some (.char '\uFEFF')
    decide
  have hstart : Cursor.skipSpace ⟨longEntry n, 0⟩ = ⟨longEntry n, 0⟩ := skipSpace_cons (by decide) _ 0
  have hread (fuel : Nat) : readValue (fuel + 3) ⟨longEntry n, 0⟩ = .error (.tooLong n) := by
    have hinside : Cursor.skipSpace (Cursor.advance 1 ⟨longEntry n, 0⟩) = ⟨(longEntry n).tail, 1⟩ :=
      skipSpace_cons (by decide) _ 1
    rw [readValue]
    show (if _ then _ else Except.map _ (readEntries (fuel + 2) [] _)) = _
    rw [hinside, if_neg (by show ¬ some (CodePoint.char '"') = some (.char '}'); decide), readEntries_longEntry hn]
    rfl
  have hfuel : 2 * (longEntry n).length + 2 = 2 * n + 11 + 3 := by
    simp only [longEntry, List.length_cons, List.length_append, List.length_replicate, List.length_nil]
    omega
  rw [read, if_neg hmark, hstart, hfuel, hread]
  rfl

/-- An object that holds an integer with too many digits is refused for their number. -/
theorem readRecords_longEntry (hn : digitLimit < n) :
    readRecords (longEntry n) = .error (.json (longEntry n) (.tooLong n)) := by
  have htrimmed : Text.IsTrimmed (longEntry n) :=
    ⟨⟨.char '{', rfl, by decide⟩, ⟨.char '}', by simp [longEntry, List.getLast?_cons], by decide⟩⟩
  have hline : ∀ c ∈ longEntry n, c.endsLine = false := by
    intro c hc
    simp only [longEntry, List.mem_cons, List.mem_append, List.mem_replicate, List.not_mem_nil, or_false] at hc
    rcases hc with rfl | rfl | rfl | rfl | rfl | ⟨-, rfl⟩ | rfl <;> decide
  have hlines : (longEntry n).lines.filter (fun line => !line.isBlank) = [longEntry n] :=
    Text.contentLines_eq_singleton hline htrimmed.isBlank_eq
  have htext : readText (longEntry n) = .error (.json (longEntry n) (.tooLong n)) := by
    rw [readText, read_longEntry hn]
    rfl
  have hlayout : inputLayout (longEntry n) = .lines := rfl
  rw [readRecords, htrimmed.trim_eq, if_neg htrimmed.ne_nil, readItems?, hlayout, hlines, mapM_cons_error htext]
  rfl

end LongEntry

end Json

end RecordPrint
