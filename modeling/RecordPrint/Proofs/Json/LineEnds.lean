import RecordPrint.Proofs.Json.Spelling
import RecordPrint.Text.Lines

/-!
# Line boundaries in JSON texts

The line boundaries in a spelling without line ends between its tokens are those of the names and texts of the tree
that are written as they are: the next line, and the separators of lines and of paragraphs.
-/

namespace RecordPrint

open CodePoint (endsLine)

/-- A line boundary that JSON strings hold as it is: the next line, or a separator of lines or of paragraphs. -/
def CodePoint.IsSeparator (c : CodePoint) : Prop := c.toNat = 0x85 ∨ c.toNat = 0x2028 ∨ c.toNat = 0x2029

theorem CodePoint.isSeparator_iff {c : CodePoint} : c.IsSeparator ↔ c.endsLine = true ∧ 0x20 ≤ c.toNat := by
  simp only [IsSeparator, endsLine, Bool.or_eq_true, Bool.and_eq_true, decide_eq_true_eq, beq_iff_eq]
  omega

namespace Json

/-- A text without a line boundary. -/
def OnOneLine (t : Text) : Prop := ∀ c ∈ t, endsLine c = false

/-- The blanks hold no line boundary. -/
structure Spacing.OneLine (sp : Spacing) : Prop extends sp.Valid where
  edge_line (level : Nat) : OnOneLine (sp.edge level)
  comma_line (level : Nat) : OnOneLine (sp.comma level)
  colon_line : OnOneLine sp.colon

theorem oneLine_compact : compact.OneLine where
  edge _ _ h := absurd h List.not_mem_nil
  comma _ _ h := absurd h List.not_mem_nil
  colon _ h := absurd h List.not_mem_nil
  edge_line _ _ h := absurd h List.not_mem_nil
  comma_line _ _ h := absurd h List.not_mem_nil
  colon_line _ h := absurd h List.not_mem_nil

/-! ### Scalars -/

theorem endsLine_of_isDigit {c : CodePoint} (h : isDigit c = true) : endsLine c = false := by
  simp only [isDigit, Bool.and_eq_true, decide_eq_true_eq] at h
  rw [Bool.eq_false_iff]
  simp only [endsLine, Ne, Bool.or_eq_true, Bool.and_eq_true, decide_eq_true_eq, beq_iff_eq]
  omega

theorem onOneLine_append {s t : Text} : OnOneLine (s ++ t) ↔ OnOneLine s ∧ OnOneLine t := by
  simp [OnOneLine, or_imp, forall_and]

theorem onOneLine_cons {c : CodePoint} {t : Text} : OnOneLine (c :: t) ↔ endsLine c = false ∧ OnOneLine t := by
  simp [OnOneLine]

theorem onOneLine_digits {t : Text} (h : Numeral.IsDigits t) : OnOneLine t := fun c hc => endsLine_of_isDigit (h c hc)

theorem onOneLine_text (negative : Bool) {p : NumeralParts} (hp : p.Valid) : OnOneLine (minus negative ++ p.text) := by
  have hsign : OnOneLine (minus negative) := by
    cases negative with
    | false => simp [minus, OnOneLine]
    | true => exact onOneLine_cons.2 ⟨rfl, fun c hc => absurd hc List.not_mem_nil⟩
  have hfraction : OnOneLine (NumeralParts.fractionText p.fraction) := by
    unfold NumeralParts.fractionText
    split_ifs
    · simp [OnOneLine]
    · exact onOneLine_cons.2 ⟨rfl, onOneLine_digits hp.fraction⟩
  have hexponent : OnOneLine (p.exponent.elim [] exponentText) := by
    cases p.exponent with
    | none => simp [OnOneLine]
    | some e =>
      have hdigits := onOneLine_digits (Numeral.isDigits_padded 2 e.natAbs)
      refine onOneLine_cons.2 ⟨rfl, onOneLine_cons.2 ⟨?_, hdigits⟩⟩
      split_ifs <;> rfl
  have hdecimal := onOneLine_append.2 ⟨onOneLine_digits hp.integer, hfraction⟩
  exact onOneLine_append.2 ⟨hsign, onOneLine_append.2 ⟨hdecimal, hexponent⟩⟩

theorem onOneLine_scalar {s : Scalar} (hs : s.Writable) (ht : ∀ t, s ≠ .text t) : OnOneLine (scalarSpelled s) := by
  cases s with
  | null => exact (by decide : ∀ c ∈ ("null" : Text), endsLine c = false)
  | bool b =>
    cases b with
    | false => exact (by decide : ∀ c ∈ ("false" : Text), endsLine c = false)
    | true => exact (by decide : ∀ c ∈ ("true" : Text), endsLine c = false)
  | int n =>
    rw [scalarSpelled, ofInt_eq]
    exact onOneLine_text _ (valid_ofNat _)
  | float x =>
    obtain ⟨y, rfl⟩ := hs
    obtain ⟨p, htext, hp, -⟩ := exists_numeral y
    rw [scalarSpelled, Binary64.numeral, htext]
    exact onOneLine_text _ hp
  | text t => exact absurd rfl (ht t)

/-! ### Strings -/

theorem onOneLine_control : ∀ n < 0x20, OnOneLine (.char '\\' :: .char 'u' :: hexText 4 n) := by
  unfold OnOneLine
  decide

/-- A line boundary in what is written for a code point is the code point itself, and no control character. -/
theorem mem_escaped {c d : CodePoint} (h : c ∈ escaped d) (hend : endsLine c = true) : c = d ∧ 0x20 ≤ c.toNat := by
  have hno : ∀ {t : Text}, OnOneLine t → c ∉ t := by
    intro t ht hc
    have := ht c hc
    rw [hend] at this
    cases this
  unfold escaped at h
  split_ifs at h with _ _ _ _ _ _ _ hcontrol
  · exact absurd h (hno (by unfold OnOneLine; decide))
  · exact absurd h (hno (by unfold OnOneLine; decide))
  · exact absurd h (hno (by unfold OnOneLine; decide))
  · exact absurd h (hno (by unfold OnOneLine; decide))
  · exact absurd h (hno (by unfold OnOneLine; decide))
  · exact absurd h (hno (by unfold OnOneLine; decide))
  · exact absurd h (hno (by unfold OnOneLine; decide))
  · exact absurd h (hno (onOneLine_control _ hcontrol))
  · obtain rfl := List.mem_singleton.1 h
    exact ⟨rfl, Nat.le_of_not_lt hcontrol⟩

theorem escaped_separator {c : CodePoint} (h : c.IsSeparator) : escaped c = [c] := by
  have hne : ∀ d : CodePoint, ¬ d.IsSeparator → c ≠ d := by
    rintro d hd rfl
    exact hd h
  have hcontrol : ¬ c.toNat < 0x20 := by
    unfold CodePoint.IsSeparator at h
    omega
  have hchar : ∀ l : Char, l.toNat < 0x80 → c ≠ .char l := by
    intro l hl
    refine hne _ ?_
    simp only [CodePoint.IsSeparator, CodePoint.toNat]
    omega
  rw [escaped, if_neg (hchar _ (by decide)), if_neg (hchar _ (by decide)), if_neg (hchar _ (by decide)),
    if_neg (hchar _ (by decide)), if_neg (hchar _ (by decide)), if_neg (hchar _ (by decide)),
    if_neg (hchar _ (by decide)), if_neg hcontrol]

theorem mem_quote {c : CodePoint} {t : Text} (hend : endsLine c = true) : c ∈ quote t ↔ c ∈ t ∧ c.IsSeparator := by
  rw [CodePoint.isSeparator_iff]
  constructor
  · intro h
    have hbody : c ∈ t.flatMap escaped := by
      have hquote : c ≠ .char '"' := by
        rintro rfl
        cases hend
      simpa [quote, hquote] using h
    obtain ⟨d, hd, hc⟩ := List.mem_flatMap.1 hbody
    obtain ⟨rfl, hlow⟩ := mem_escaped hc hend
    exact ⟨hd, hend, hlow⟩
  · rintro ⟨hc, hsep⟩
    have hself : c ∈ escaped c := by
      rw [escaped_separator (CodePoint.isSeparator_iff.2 hsep)]
      exact List.mem_singleton_self c
    rw [quote]
    exact List.mem_cons_of_mem _ (List.mem_append_left _ (List.mem_flatMap.2 ⟨c, hc, hself⟩))

/-! ### Trees -/

variable {sp : Spacing} {c : CodePoint}

theorem not_mem_of_onOneLine {t : Text} (ht : OnOneLine t) (hend : endsLine c = true) : c ∉ t := by
  intro hc
  rw [ht c hc] at hend
  cases hend

theorem not_mem_comma (hsp : sp.OneLine) (hend : endsLine c = true) (level : Nat) {p : Prop} [Decidable p] :
    c ∉ if p then [] else CodePoint.char ',' :: sp.comma level := by
  split_ifs
  · exact List.not_mem_nil
  · exact not_mem_of_onOneLine (onOneLine_cons.2 ⟨rfl, hsp.comma_line level⟩) hend

theorem mem_spelledItems (hsp : sp.OneLine) (hend : endsLine c = true) {level : Nat} {ts : List Json} :
    c ∈ spelledItems sp level ts ↔ ∃ t ∈ ts, c ∈ spelled sp level t := by
  induction ts with
  | nil => simp [spelledItems]
  | cons t ts ih =>
    rw [spelledItems]
    simp only [List.mem_append, not_mem_comma hsp hend, or_false, ih, List.mem_cons, exists_eq_or_imp]

theorem mem_spelledEntries (hsp : sp.OneLine) (hend : endsLine c = true) {level : Nat} {es : List (Text × Json)} :
    c ∈ spelledEntries sp level es ↔ ∃ e ∈ es, c ∈ quote e.1 ∨ c ∈ spelled sp level e.2 := by
  have hcolon := not_mem_of_onOneLine (onOneLine_cons.2 ⟨(rfl : endsLine (.char ':') = false), hsp.colon_line⟩) hend
  induction es with
  | nil => simp [spelledEntries]
  | cons e es ih =>
    rw [spelledEntries]
    simp only [List.mem_append, not_mem_comma hsp hend, hcolon, or_false, ih, List.mem_cons, exists_eq_or_imp]

/-- What stands between two brackets. -/
theorem mem_bracketed (hsp : sp.OneLine) (hend : endsLine c = true) {left right : CodePoint}
    (hleft : endsLine left = false) (hright : endsLine right = false) (level level' : Nat) (t : Text) :
    c ∈ left :: sp.edge level ++ t ++ sp.edge level' ++ [right] ↔ c ∈ t := by
  have hopen := not_mem_of_onOneLine (onOneLine_cons.2 ⟨hleft, hsp.edge_line level⟩) hend
  have hclose := not_mem_of_onOneLine (onOneLine_append.2
    ⟨hsp.edge_line level', onOneLine_cons.2 ⟨hright, fun _ h => absurd h List.not_mem_nil⟩⟩) hend
  rw [List.append_assoc, List.mem_append, List.mem_append]
  simp only [hopen, hclose, false_or, or_false]

/-- The line boundaries in a spelling are the separators in the names and texts of the tree. -/
theorem mem_spelled (hsp : sp.OneLine) (hend : endsLine c = true) {j : Json} (hj : j.WellFormed) (level : Nat) :
    c ∈ spelled sp level j ↔ ∃ t, j.Holds t ∧ c ∈ t ∧ c.IsSeparator := by
  induction hj generalizing level with
  | @leaf s hs =>
    rw [spelled]
    by_cases ht : ∃ t, s = .text t
    · obtain ⟨t, rfl⟩ := ht
      rw [scalarSpelled, mem_quote hend]
      constructor
      · exact fun h => ⟨t, .leaf, h⟩
      · rintro ⟨t', hholds, h⟩
        cases hholds
        exact h
    · have hplain := onOneLine_scalar hs fun t h => ht ⟨t, h⟩
      constructor
      · exact fun h => absurd h (not_mem_of_onOneLine hplain hend)
      · rintro ⟨t, hholds, -⟩
        cases hholds
        exact absurd ⟨t, rfl⟩ ht
  | @array items _ ih =>
    have hitems : c ∈ spelled sp level (.array items) ↔ ∃ t ∈ items, c ∈ spelled sp (level + 1) t := by
      cases items with
      | nil =>
        have hnone := not_mem_of_onOneLine (by unfold OnOneLine; decide : OnOneLine ("[]" : Text)) hend
        simpa [spelled] using hnone
      | cons t ts => rw [spelled, mem_bracketed hsp hend rfl rfl, mem_spelledItems hsp hend]
    rw [hitems]
    constructor
    · rintro ⟨t, ht, hc⟩
      obtain ⟨s, hholds, hs⟩ := (ih t ht (level + 1)).1 hc
      exact ⟨s, .item ht hholds, hs⟩
    · rintro ⟨s, hholds, hs⟩
      cases hholds with
      | item ht hholds => exact ⟨_, ht, (ih _ ht (level + 1)).2 ⟨s, hholds, hs⟩⟩
  | @object entries _ _ ih =>
    have hentries : c ∈ spelled sp level (.object entries) ↔
        ∃ e ∈ entries, c ∈ quote e.1 ∨ c ∈ spelled sp (level + 1) e.2 := by
      cases entries with
      | nil =>
        have hnone := not_mem_of_onOneLine (by unfold OnOneLine; decide : OnOneLine ("\x7b\x7d" : Text)) hend
        simpa [spelled] using hnone
      | cons e es => rw [spelled, mem_bracketed hsp hend rfl rfl, mem_spelledEntries hsp hend]
    rw [hentries]
    constructor
    · rintro ⟨e, he, hc | hc⟩
      · exact ⟨e.1, .name he, (mem_quote hend).1 hc⟩
      · obtain ⟨s, hholds, hs⟩ := (ih e he (level + 1)).1 hc
        exact ⟨s, .value he hholds, hs⟩
    · rintro ⟨s, hholds, hs⟩
      cases hholds with
      | name he => exact ⟨_, he, .inl ((mem_quote hend).2 hs)⟩
      | value he hholds => exact ⟨_, he, .inr ((ih _ he (level + 1)).2 ⟨s, hholds, hs⟩)⟩

end Json

end RecordPrint
