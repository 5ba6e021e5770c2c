import RecordPrint.Number.Numeral
import RecordPrint.Proofs.Text.Trimming
import RecordPrint.Text.Case

/-!
# Digits among blanks and letters

No digit is a blank, and digits and blanks have no capitals, so a text of digits is what trimming leaves of a text with
blanks around it, also where letters are replaced by capitals.

* `Text.Surrounds` — a text that is another one with blanks around it;
* `trim_eq_iff` — trimming finds the one that neither begins nor ends with a blank;
* `Numeral.read_eq_ok_iff` — the texts of digits that are read as a number.
-/

namespace RecordPrint

namespace CodePoint

variable {c : CodePoint}

theorem inRanges_eq_true_iff {ranges : List (Nat × Nat)} {n : Nat} :
    inRanges ranges n = true ↔ ∃ r ∈ ranges, r.1 ≤ n ∧ n ≤ r.2 := by
  simp [inRanges]

/-- Where a digit stands: in a run of ten, or among the other digits. -/
theorem exists_of_isDigit (h : c.isDigit = true) :
    (∃ z ∈ digitZeros, z ≤ c.toNat ∧ c.toNat ≤ z + 9) ∨ ∃ r ∈ ornamentRanges, r.1 ≤ c.toNat ∧ c.toNat ≤ r.2 := by
  rw [isDigit, Bool.or_eq_true, inRanges_eq_true_iff] at h
  refine h.imp_left fun hdecimal => ?_
  rw [decimal?, Option.isSome_map, List.find?_isSome] at hdecimal
  simpa using hdecimal

theorem isDigit_of_decimal (h : c.decimal? ≠ none) : c.isDigit = true := by
  rw [isDigit, Option.isSome_iff_ne_none.2 h, Bool.true_or]

/-- The runs of digits and of blanks lie apart. -/
theorem not_isBlank_of_isDigit (h : c.isDigit = true) : c.isBlank = false := by
  have hzeros : ∀ z ∈ digitZeros, ∀ r ∈ blankRanges, z + 9 < r.1 ∨ r.2 < z := by decide
  have hornaments : ∀ o ∈ ornamentRanges, ∀ r ∈ blankRanges, o.2 < r.1 ∨ r.2 < o.1 := by decide
  rw [Bool.eq_false_iff, Ne, isBlank, inRanges_eq_true_iff]
  rintro ⟨r, hr, hfirst, hlast⟩
  rcases exists_of_isDigit h with ⟨z, hz, hin⟩ | ⟨o, ho, hin⟩
  · have := hzeros z hz r hr
    omega
  · have := hornaments o ho r hr
    omega

theorem bounds_of_isDigit (h : c.isDigit = true) : c.toNat ≤ 0x39 ∨ 0xB2 ≤ c.toNat := by
  have hzeros : ∀ z ∈ digitZeros, z + 9 ≤ 0x39 ∨ 0xB2 ≤ z := by decide
  have hornaments : ∀ o ∈ ornamentRanges, 0xB2 ≤ o.1 := by decide
  rcases exists_of_isDigit h with ⟨z, hz, hin⟩ | ⟨o, ho, hin⟩
  · have := hzeros z hz
    omega
  · have := hornaments o ho
    omega

theorem bounds_of_isBlank (h : c.isBlank = true) : c.toNat ≤ 0x20 ∨ 0x85 ≤ c.toNat := by
  have hblanks : ∀ r ∈ blankRanges, r.2 ≤ 0x20 ∨ 0x85 ≤ r.1 := by decide
  rw [isBlank, inRanges_eq_true_iff] at h
  obtain ⟨r, hr, hin⟩ := h
  have := hblanks r hr
  omega

/-- A code point that is no digit and no blank. -/
def IsOther (c : CodePoint) : Prop := c.isDigit = false ∧ c.isBlank = false

theorem isOther_of_letter (hfirst : 0x41 ≤ c.toNat) (hlast : c.toNat ≤ 0x7A) : c.IsOther := by
  refine ⟨Bool.eq_false_iff.2 fun h => ?_, Bool.eq_false_iff.2 fun h => ?_⟩
  · have := bounds_of_isDigit h
    omega
  · have := bounds_of_isBlank h
    omega

/-- What has a capital of its own is neither a digit nor a blank, and no more is the capital. -/
theorem capital_cases (c : CodePoint) : c.capital = c ∨ c.IsOther ∧ c.capital.IsOther := by
  cases c with
  | surrogate u => exact .inl rfl
  | char c =>
    rw [capital]
    split
    · rename_i hsmall
      right
      have hlow : 97 ≤ c.toNat := hsmall.1
      have hhigh : c.toNat ≤ 122 := hsmall.2
      have hvalid : (c.toNat - 32).isValidChar := .inl (by omega)
      have hcapital : (CodePoint.char (Char.ofNat (c.toNat - 32))).toNat = c.toNat - 32 := by
        rw [Char.ofNat, dif_pos hvalid]
        rfl
      refine ⟨isOther_of_letter ?_ ?_, isOther_of_letter ?_ ?_⟩
      · exact Nat.le_trans (by decide) hlow
      · exact hhigh
      · omega
      · omega
    · split
      · rename_i hdotless
        subst hdotless
        exact .inr ⟨⟨by decide, by decide⟩, by decide, by decide⟩
      · split
        · rename_i hlong
          subst hlong
          exact .inr ⟨⟨by decide, by decide⟩, by decide, by decide⟩
        · exact .inl rfl

theorem isDigit_capital (c : CodePoint) : c.capital.isDigit = c.isDigit := by
  rcases c.capital_cases with hsame | ⟨hc, hcapital⟩
  · rw [hsame]
  · rw [hc.1, hcapital.1]

theorem isBlank_capital (c : CodePoint) : c.capital.isBlank = c.isBlank := by
  rcases c.capital_cases with hsame | ⟨hc, hcapital⟩
  · rw [hsame]
  · rw [hc.2, hcapital.2]

theorem capital_of_isDigit (h : c.isDigit = true) : c.capital = c := by
  rcases c.capital_cases with hsame | ⟨hc, -⟩
  · exact hsame
  · rw [hc.1] at h
    cases h

end CodePoint

namespace Text

variable {t u : Text}

/-! ### Texts with blanks around them -/

/-- A text is another one with blanks around it. -/
def Surrounds (t u : Text) : Prop := ∃ a b : Text, a.isBlank = true ∧ b.isBlank = true ∧ t = a ++ u ++ b

theorem surrounds_trim (t : Text) : t.Surrounds t.trim := exists_trim t

/-- What is left by trimming, where it neither begins nor ends with a blank. -/
theorem trim_eq_iff (hu : u.IsTrimmed) : t.trim = u ↔ t.Surrounds u := by
  constructor
  · rintro rfl
    exact surrounds_trim t
  · rintro ⟨a, b, ha, hb, rfl⟩
    exact trim_append ha hb hu

theorem isTrimmed_of_forall (hne : u ≠ []) (h : ∀ c ∈ u, c.isBlank = false) : u.IsTrimmed where
  first := ⟨u.head hne, List.head?_eq_some_head hne, h _ (List.head_mem hne)⟩
  last := ⟨u.getLast hne, List.getLast?_eq_some_getLast hne, h _ (List.getLast_mem hne)⟩

/-! ### Texts of digits -/

theorem isDigits_iff : t.isDigits = true ↔ t ≠ [] ∧ ∀ c ∈ t, c.isDigit = true := by
  simp [isDigits, List.isEmpty_eq_false_iff]

theorem isTrimmed_of_isDigits (h : t.isDigits = true) : t.IsTrimmed :=
  isTrimmed_of_forall (isDigits_iff.1 h).1 fun c hc => CodePoint.not_isBlank_of_isDigit ((isDigits_iff.1 h).2 c hc)

theorem isDigits_capitals (t : Text) : t.capitals.isDigits = t.isDigits := by
  simp [isDigits, capitals, Function.comp_def, CodePoint.isDigit_capital]

theorem capitals_of_isDigits (h : t.isDigits = true) : t.capitals = t :=
  (List.map_congr_left fun c hc => CodePoint.capital_of_isDigit ((isDigits_iff.1 h).2 c hc)).trans (List.map_id t)

end Text

namespace Numeral

variable {t : Text} {n : Nat}

/-- A text of decimal digits that are no more than are converted. -/
structure IsReadable (t : Text) : Prop where
  nonempty : t ≠ []
  decimal : ∀ c ∈ t, c.decimal? ≠ none
  short : t.length ≤ digitLimit

theorem IsReadable.isDigits (h : IsReadable t) : t.isDigits = true :=
  Text.isDigits_iff.2 ⟨h.nonempty, fun c hc => CodePoint.isDigit_of_decimal (h.decimal c hc)⟩

theorem takeWhile_decimal_eq_iff : t.takeWhile (fun c => c.decimal?.isSome) = t ↔ ∀ c ∈ t, c.decimal? ≠ none := by
  rw [List.takeWhile_eq_self_iff]
  simp only [Option.isSome_iff_ne_none]

/-- The texts that are read as a number, and the number. -/
theorem read_eq_ok_iff : read t = .ok n ↔ IsReadable t ∧ n = value t := by
  constructor
  · intro h
    simp only [read] at h
    split at h
    · cases h
    · rename_i hshort
      split at h
      · rename_i hall
        rw [hall.1, Nat.not_lt] at hshort
        cases h
        exact ⟨⟨hall.2, takeWhile_decimal_eq_iff.1 hall.1, hshort⟩, rfl⟩
      · cases h
  · rintro ⟨ht, rfl⟩
    simp only [read, takeWhile_decimal_eq_iff.2 ht.decimal]
    rw [if_neg (Nat.not_lt.2 ht.short), if_pos ⟨trivial, ht.nonempty⟩]

theorem not_isReadable_iff : ¬ IsReadable t ↔ ∃ e, read t = .error e := by
  constructor
  · intro ht
    cases h : read t with
    | error e => exact ⟨e, rfl⟩
    | ok n => exact absurd (read_eq_ok_iff.1 h).1 ht
  · rintro ⟨e, he⟩ ht
    cases he.symm.trans (read_eq_ok_iff.2 ⟨ht, rfl⟩)

/-- A text is not read exactly if it is empty, has something else than decimal digits, or too many of them. -/
theorem exists_read_eq_error_iff {t : Text} :
    (∃ e, read t = .error e) ↔ t = [] ∨ (∃ c ∈ t, c.decimal? = none) ∨ digitLimit < t.length := by
  rw [← not_isReadable_iff]
  constructor
  · intro hnot
    by_contra hall
    simp only [not_or, not_exists, not_and, Nat.not_lt] at hall
    exact hnot ⟨hall.1, hall.2.1, hall.2.2⟩
  · rintro (hnil | ⟨c, hc, hother⟩ | hlong) ht
    · exact ht.nonempty hnil
    · exact ht.decimal c hc hother
    · exact Nat.not_lt.2 ht.short hlong

end Numeral

end RecordPrint
