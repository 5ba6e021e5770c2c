import RecordPrint.Proofs.Number.Digits
import RecordPrint.Proofs.Number.Shortest

/-!
# Numbers in JSON texts

A numeral cut into its parts: an integer, a fraction and an exponent.

* `readNumber_text` — a numeral in front of a text that does not go on with it is read part by part;
* `exists_layOut` — the digits of a decimal, laid out with a point or an exponent, have parts of the same value;
* `readPlain_ofInt` and `readPlain_numeral` — integers and finite numbers are read back from their numerals.
-/

namespace RecordPrint

open Numeral (IsDigits value isDigits_append)

namespace Json

/-- A text does not go on with a digit. -/
def NoDigit (t : Text) : Prop := ∀ c ∈ t.head?, isDigit c = false

/-- A text does not go on with a part of a numeral. -/
def Stops (t : Text) : Prop :=
  ∀ c ∈ t.head?, isDigit c = false ∧ c ≠ .char '.' ∧ c ≠ .char 'e' ∧ c ≠ .char 'E'

theorem Stops.noDigit {t : Text} (h : Stops t) : NoDigit t := fun c hc => (h c hc).1

theorem stops_nil : Stops [] := by
  intro c hc
  cases hc

theorem noDigit_cons {c : CodePoint} {t : Text} (h : isDigit c = false) : NoDigit (c :: t) := by
  intro c' hc'
  cases hc'
  exact h

theorem stops_cons {c : CodePoint} {t : Text}
    (h : isDigit c = false ∧ c ≠ .char '.' ∧ c ≠ .char 'e' ∧ c ≠ .char 'E') : Stops (c :: t) := by
  intro c' hc'
  cases hc'
  exact h

/-! ### Parts of a numeral -/

/-- The parts of a numeral. -/
structure NumeralParts where
  integer : Text
  fraction : Text
  exponent : Option Int

namespace NumeralParts

/-- A fraction with its point, if there is one. -/
def fractionText (fraction : Text) : Text := if fraction = [] then [] else .char '.' :: fraction

/-- The numeral with the given parts. -/
def text (p : NumeralParts) : Text := p.integer ++ fractionText p.fraction ++ p.exponent.elim [] exponentText

/-- The integer is a zero or does not start with one. -/
structure Valid (p : NumeralParts) : Prop where
  integer : IsDigits p.integer
  nonempty : p.integer ≠ []
  leading : p.integer.head? = some (.char '0') → p.integer = [.char '0']
  fraction : IsDigits p.fraction

end NumeralParts

theorem cutDigits_append {ds rest : Text} (hds : IsDigits ds) (hrest : NoDigit rest) :
    cutDigits (ds ++ rest) = (ds, rest) := by
  have htake : rest.takeWhile isDigit = [] ∧ rest.dropWhile isDigit = rest := by
    cases rest with
    | nil => exact ⟨rfl, rfl⟩
    | cons c rest => simp [hrest c rfl]
  rw [cutDigits, List.takeWhile_append_of_pos hds, List.dropWhile_append_of_pos hds, htake.1, htake.2,
    List.append_nil]

theorem cutInteger?_append {ds rest : Text} (hds : IsDigits ds) (hne : ds ≠ [])
    (hlead : ds.head? = some (.char '0') → ds = [.char '0']) (hrest : NoDigit rest) :
    cutInteger? (ds ++ rest) = some (ds, rest) := by
  by_cases hzero : ds.head? = some (.char '0')
  · rw [hlead hzero]
    rfl
  · cases ds with
    | nil => exact absurd rfl hne
    | cons c ds =>
      have hc : c ≠ .char '0' := fun h => hzero (by rw [h]; rfl)
      unfold cutInteger?
      split
      · next h => exact absurd (List.cons.inj h).1 hc
      · rw [cutDigits_append hds hrest]

theorem cutFraction_append {fraction rest : Text} (hf : IsDigits fraction) (hrest : NoDigit rest)
    (hpoint : ∀ c ∈ rest.head?, c ≠ .char '.') :
    cutFraction (NumeralParts.fractionText fraction ++ rest) = (fraction, rest) := by
  cases fraction with
  | nil =>
    cases rest with
    | nil => rfl
    | cons c rest =>
      have hc := hpoint c rfl
      simp only [NumeralParts.fractionText, if_pos, List.nil_append]
      unfold cutFraction
      split
      · next h => exact absurd (List.cons.inj h).1 hc
      · rfl
  | cons d ds =>
    rw [NumeralParts.fractionText, if_neg (List.cons_ne_nil d ds), List.cons_append, cutFraction,
      cutDigits_append hf hrest]

theorem cutExponent_none {rest : Text} (hrest : ∀ c ∈ rest.head?, c ≠ .char 'e' ∧ c ≠ .char 'E') :
    cutExponent rest = (none, rest) := by
  unfold cutExponent
  split
  · next e rest =>
    obtain ⟨he, hE⟩ := hrest (.char e) rfl
    rw [if_neg]
    rintro (rfl | rfl)
    · exact he rfl
    · exact hE rfl
  · rfl

theorem cutExponent_append (e : Int) {rest : Text} (hrest : NoDigit rest) :
    cutExponent (exponentText e ++ rest) = (some e, rest) := by
  have hcut := cutDigits_append (Numeral.isDigits_padded 2 e.natAbs) hrest
  have hvalue := Numeral.value_padded 2 e.natAbs
  cases hp : Numeral.padded 2 e.natAbs with
  | nil => exact absurd hp (Numeral.padded_ne_nil 2 e.natAbs)
  | cons d ds =>
    rw [hp] at hcut hvalue
    unfold exponentText
    rw [hp]
    by_cases hneg : e < 0
    · simp only [if_pos hneg, List.cons_append, cutExponent, true_or, if_true]
      rw [← List.cons_append, hcut]
      simp only [hvalue]
      congr 2
      omega
    · simp only [if_neg hneg, List.cons_append, cutExponent, true_or, if_true]
      rw [← List.cons_append, hcut]
      simp only [hvalue]
      congr 2
      omega

theorem noDigit_exponent (e : Option Int) {rest : Text} (hrest : Stops rest) :
    NoDigit (e.elim [] exponentText ++ rest) ∧ ∀ c ∈ (e.elim [] exponentText ++ rest).head?, c ≠ .char '.' := by
  cases e with
  | none => exact ⟨hrest.noDigit, fun c hc => (hrest c hc).2.1⟩
  | some e =>
    constructor
    · exact noDigit_cons rfl
    · intro c hc
      cases hc
      decide

theorem noDigit_fraction (fraction : Text) {rest : Text} (hrest : NoDigit rest) :
    NoDigit (NumeralParts.fractionText fraction ++ rest) := by
  cases fraction with
  | nil => exact hrest
  | cons d ds => exact noDigit_cons rfl

/-- A minus sign if a number is negative. -/
def minus (negative : Bool) : Text := if negative then [.char '-'] else []

theorem advance_append (s rest : Text) (i : Nat) :
    Cursor.advance s.length ⟨s ++ rest, i⟩ = ⟨rest, i + s.length⟩ := by
  rw [Cursor.advance, List.drop_left]

/-- A numeral is read part by part. -/
theorem readNumber_text (negative : Bool) {p : NumeralParts} (hp : p.Valid) {rest : Text}
    (hrest : Stops rest) (i : Nat) :
    readNumber ⟨minus negative ++ p.text ++ rest, i⟩ =
      (number negative p.integer p.fraction p.exponent).map
        (·, ⟨rest, i + (minus negative ++ p.text).length⟩) := by
  obtain ⟨hexp, hpoint⟩ := noDigit_exponent p.exponent hrest
  have hinteger := cutInteger?_append hp.integer hp.nonempty hp.leading (noDigit_fraction p.fraction hexp)
  have hfraction := cutFraction_append hp.fraction hexp hpoint
  have hexponent : cutExponent (p.exponent.elim [] exponentText ++ rest) = (p.exponent, rest) := by
    cases p.exponent with
    | none => exact cutExponent_none fun c hc => (hrest c hc).2.2
    | some e => exact cutExponent_append e hrest.noDigit
  have hbody : p.text ++ rest = p.integer ++ (NumeralParts.fractionText p.fraction ++
      (p.exponent.elim [] exponentText ++ rest)) := by
    simp only [NumeralParts.text, List.append_assoc]
  have hsign : (minus negative ++ p.text ++ rest).head? = some (.char '-') ↔ negative = true := by
    cases negative with
    | true => simp [minus]
    | false =>
      cases hi : p.integer with
      | nil => exact absurd hi hp.nonempty
      | cons c ds =>
        have hc := hp.integer c (hi ▸ List.mem_cons_self)
        have : c ≠ .char '-' := by
          rintro rfl
          cases hc
        simpa [minus, NumeralParts.text, hi] using this
  have hcut : (if negative then (minus negative ++ p.text ++ rest).tail else minus negative ++ p.text ++ rest) =
      p.text ++ rest := by
    cases negative <;> rfl
  have hlength : (minus negative ++ p.text ++ rest).length - rest.length = (minus negative ++ p.text).length := by
    rw [List.length_append, Nat.add_sub_cancel]
  unfold readNumber
  simp only [hsign, Bool.decide_eq_true, hcut]
  rw [hbody, hinteger]
  simp only [hfraction, hexponent, hlength, advance_append]

/-! ### Words -/

/-- A text that begins with a digit, behind a minus sign or not. -/
def StartsNumeral (t : Text) : Prop :=
  ∃ c u, isDigit c = true ∧ (t = c :: u ∨ t = .char '-' :: c :: u)

theorem not_startsWith {c d : CodePoint} {t start : Text} (h : d ≠ c) :
    ¬ Text.startsWith (c :: t) (d :: start) = true := by
  rw [Text.startsWith, Text.dropStart?, if_neg h]
  exact Bool.false_ne_true

theorem not_startsWith_cons {c d : CodePoint} {t start : Text} (h : ¬ Text.startsWith t start = true) :
    ¬ Text.startsWith (c :: t) (d :: start) = true := by
  by_cases hd : d = c
  · rw [Text.startsWith, Text.dropStart?, if_pos hd]
    exact h
  · exact not_startsWith hd

/-- No word begins as a numeral does. -/
theorem find_words_eq_none {t : Text} (h : StartsNumeral t) : (words.find? fun w => t.startsWith w.1) = none := by
  obtain ⟨c, u, hc, ht⟩ := h
  have hne : ∀ l : Char, isDigit (.char l) = false → CodePoint.char l ≠ c := by
    rintro l hl rfl
    rw [hc] at hl
    cases hl
  rw [List.find?_eq_none]
  rcases ht with rfl | rfl
  · simp only [words, List.mem_cons, List.not_mem_nil, or_false, forall_eq_or_imp, forall_eq]
    exact ⟨not_startsWith (hne 'n' rfl), not_startsWith (hne 't' rfl), not_startsWith (hne 'f' rfl),
      not_startsWith (hne 'N' rfl), not_startsWith (hne 'I' rfl), not_startsWith (hne '-' rfl)⟩
  · simp only [words, List.mem_cons, List.not_mem_nil, or_false, forall_eq_or_imp, forall_eq]
    exact ⟨not_startsWith (by decide), not_startsWith (by decide), not_startsWith (by decide),
      not_startsWith (by decide), not_startsWith (by decide), not_startsWith_cons (not_startsWith (hne 'I' rfl))⟩

theorem startsNumeral_text (negative : Bool) {p : NumeralParts} (hp : p.Valid) (rest : Text) :
    StartsNumeral (minus negative ++ p.text ++ rest) := by
  cases hi : p.integer with
  | nil => exact absurd hi hp.nonempty
  | cons c ds =>
    have hc := hp.integer c (hi ▸ List.mem_cons_self)
    refine ⟨c, ds ++ NumeralParts.fractionText p.fraction ++ p.exponent.elim [] exponentText ++ rest, hc, ?_⟩
    cases negative with
    | false => exact .inl (by simp [minus, NumeralParts.text, hi])
    | true => exact .inr (by simp [minus, NumeralParts.text, hi])

theorem readPlain_text (negative : Bool) {p : NumeralParts} (hp : p.Valid) {rest : Text}
    (hrest : Stops rest) (i : Nat) :
    readPlain ⟨minus negative ++ p.text ++ rest, i⟩ =
      (number negative p.integer p.fraction p.exponent).map
        (·, ⟨rest, i + (minus negative ++ p.text).length⟩) := by
  rw [readPlain, find_words_eq_none (startsNumeral_text negative hp rest), readNumber_text negative hp hrest]

/-! ### Integers -/

theorem valid_ofNat (n : Nat) : NumeralParts.Valid ⟨Numeral.ofNat n, [], none⟩ where
  integer := Numeral.isDigits_ofNat n
  nonempty := Numeral.ofNat_ne_nil n
  leading := (Numeral.isCanonical_ofNat n).leading
  fraction := by simp [IsDigits]

theorem ofInt_eq (n : Int) :
    Numeral.ofInt n = minus (decide (n < 0)) ++ NumeralParts.text ⟨Numeral.ofNat n.natAbs, [], none⟩ := by
  simp [Numeral.ofInt, Numeral.sign, minus, NumeralParts.text, NumeralParts.fractionText]

/-- An integer whose digits are within the limit is read back from its numeral. -/
theorem readPlain_ofInt {n : Int} (hn : (Numeral.ofNat n.natAbs).length ≤ Numeral.digitLimit) {rest : Text}
    (hrest : Stops rest) (i : Nat) :
    readPlain ⟨Numeral.ofInt n ++ rest, i⟩ = .ok (.int n, ⟨rest, i + (Numeral.ofInt n).length⟩) := by
  rw [ofInt_eq, readPlain_text _ (valid_ofNat _) hrest, number, if_pos ⟨rfl, rfl⟩, if_neg (Nat.not_lt.2 hn),
    Numeral.value_ofNat]
  have hvalue : (if decide (n < 0) = true then -(n.natAbs : Int) else n.natAbs) = n := by
    simp only [decide_eq_true_eq]
    split_ifs <;> omega
  rw [hvalue]
  rfl

/-! ### Finite numbers -/

theorem significantDigits_eq (n : Nat) :
    ∃ z, Numeral.ofNat n = significantDigits n ++ List.replicate z (.char '0') := Numeral.exists_trimmed _

/-- The digits of a number other than zero, without the zeros at their end. -/
theorem significantDigits_spec {n : Nat} (hn : n ≠ 0) : ∃ z, IsDigits (significantDigits n) ∧
    significantDigits n ≠ [] ∧ (significantDigits n).head? ≠ some (.char '0') ∧
    n = value (significantDigits n) * 10 ^ z ∧ (Numeral.ofNat n).length = (significantDigits n).length + z := by
  obtain ⟨z, hz⟩ := significantDigits_eq n
  have hvalue : n = value (significantDigits n) * 10 ^ z := by
    have := Numeral.value_ofNat n
    rw [hz, Numeral.value_append, Numeral.value_replicate_zero, List.length_replicate] at this
    exact this.symm
  refine ⟨z, (isDigits_append.1 (hz ▸ Numeral.isDigits_ofNat n)).1, ?_, ?_, hvalue, ?_⟩
  · intro hnil
    rw [hnil] at hvalue
    exact hn (by simpa [value, Numeral.valueBehind] using hvalue)
  · intro hzero
    obtain ⟨t, ht⟩ := List.head?_eq_some_iff.1 hzero
    exact Numeral.head_ofNat hn (hz.trans (congrArg (· ++ _) ht)) rfl
  · simpa using congrArg List.length hz

/-- A numeral with a fraction or an exponent stands for `m * 10 ^ e`. -/
structure NumeralParts.Spells (p : NumeralParts) (m : Nat) (e : Int) : Prop where
  valid : p.Valid
  real : p.fraction ≠ [] ∨ p.exponent ≠ none
  value : ∃ k : Nat, value (p.integer ++ p.fraction) = m * 10 ^ k ∧ p.exponent.getD 0 - p.fraction.length = e - k

section LayOut

variable {ds : Text} {lead : Int}

/-- Below one: a zero, a point, zeros and the digits. -/
theorem spells_small (hds : IsDigits ds) (hne : ds ≠ []) (hlead : lead < 0) :
    NumeralParts.Spells ⟨[.char '0'], List.replicate ((-lead).toNat - 1) (.char '0') ++ ds, none⟩ (value ds)
      (lead + 1 - ds.length) where
  valid := {
    integer := Numeral.isDigits_replicate 1
    nonempty := List.cons_ne_nil _ _
    leading := fun _ => rfl
    fraction := isDigits_append.2 ⟨Numeral.isDigits_replicate _, hds⟩ }
  real := .inl (by simp [hne])
  value := by
    refine ⟨0, ?_, ?_⟩
    · rw [List.singleton_append, Numeral.value_zero_cons, Numeral.value_append, Numeral.value_replicate_zero]
      simp
    · simp only [Option.getD_none, List.length_append, List.length_replicate]
      omega

/-- Digits with a point in between. -/
theorem spells_split (hds : IsDigits ds) (hlead : ds.head? ≠ some (.char '0')) {n : Nat} (hn : n + 1 < ds.length) :
    NumeralParts.Spells ⟨ds.take (n + 1), ds.drop (n + 1), none⟩ (value ds) (n + 1 - ds.length) where
  valid := {
    integer := hds.sublist (List.take_sublist _ _)
    nonempty := by
      rw [Ne, List.take_eq_nil_iff]
      rintro (h | rfl)
      · cases h
      · cases hn
    leading := by
      rw [List.head?_take, if_neg (Nat.succ_ne_zero n)]
      exact fun h => absurd h hlead
    fraction := hds.sublist (List.drop_sublist _ _) }
  real := .inl (by simpa using hn)
  value := by
    refine ⟨0, ?_, ?_⟩
    · rw [List.take_append_drop]
      simp
    · simp only [Option.getD_none, List.length_drop]
      omega

/-- Digits filled up with zeros, a point and a zero. -/
theorem spells_whole (hds : IsDigits ds) (hne : ds ≠ []) (hlead : ds.head? ≠ some (.char '0')) {n : Nat}
    (hn : ds.length ≤ n + 1) :
    NumeralParts.Spells ⟨ds ++ List.replicate (n + 1 - ds.length) (.char '0'), [.char '0'], none⟩ (value ds)
      (n + 1 - ds.length) where
  valid := {
    integer := isDigits_append.2 ⟨hds, Numeral.isDigits_replicate _⟩
    nonempty := by simp [hne]
    leading := by
      intro h
      cases ds with
      | nil => exact absurd rfl hne
      | cons c ds => exact absurd h hlead
    fraction := Numeral.isDigits_replicate 1 }
  real := .inl (List.cons_ne_nil _ _)
  value := by
    refine ⟨n + 1 - ds.length + 1, ?_, ?_⟩
    · have hzeros : List.replicate (n + 1 - ds.length) (CodePoint.char '0') ++ [.char '0'] =
          List.replicate (n + 1 - ds.length + 1) (.char '0') := List.replicate_succ'.symm
      rw [List.append_assoc, hzeros, Numeral.value_append, Numeral.value_replicate_zero, List.length_replicate,
        Nat.add_zero]
    · simp only [Option.getD_none, List.length_singleton]
      omega

/-- A digit, the others behind a point, and an exponent. -/
theorem spells_exponent {d : CodePoint} (hds : IsDigits (d :: ds)) (hlead : d ≠ .char '0') :
    NumeralParts.Spells ⟨[d], ds, some lead⟩ (value (d :: ds)) (lead + 1 - (d :: ds).length) where
  valid := {
    integer := hds.sublist (by simp)
    nonempty := List.cons_ne_nil _ _
    leading := by
      intro h
      cases h
      exact absurd rfl hlead
    fraction := hds.sublist (List.sublist_cons_self _ _) }
  real := .inr (Option.some_ne_none _)
  value := by
    refine ⟨0, ?_, ?_⟩
    · simp
    · simp only [Option.getD_some, List.length_cons]
      omega

/-- The digits of a decimal, laid out, are a numeral that stands for the decimal. -/
theorem exists_layOut (hds : IsDigits ds) (hne : ds ≠ []) (hlead : ds.head? ≠ some (.char '0')) (lead : Int) :
    ∃ p : NumeralParts, layOut ds lead = p.text ∧ p.Spells (value ds) (lead + 1 - ds.length) := by
  unfold layOut
  split_ifs with hrange hneg
  · refine ⟨_, ?_, spells_small hds hne hneg⟩
    simp [NumeralParts.text, NumeralParts.fractionText, hne]
  · obtain ⟨n, rfl⟩ : ∃ n : Nat, lead = n := ⟨lead.toNat, by omega⟩
    by_cases hn : n + 1 < ds.length
    · refine ⟨_, ?_, spells_split hds hlead hn⟩
      have hdrop : ds.drop (n + 1) ≠ [] := by simpa using hn
      simp [NumeralParts.text, NumeralParts.fractionText, hdrop, Nat.min_eq_left hn.le]
    · refine ⟨_, ?_, spells_whole hds hne hlead (Nat.le_of_not_lt hn)⟩
      have hdrop : ds.drop (n + 1) = [] := by simpa using Nat.le_of_not_lt hn
      have htake : ds.take (n + 1) = ds := List.take_of_length_le (Nat.le_of_not_lt hn)
      simp [NumeralParts.text, NumeralParts.fractionText, hdrop, htake]
  · cases ds with
    | nil => exact absurd rfl hne
    | cons d ds =>
      refine ⟨_, ?_, spells_exponent hds fun h => hlead (by rw [h]; rfl)⟩
      cases ds with
      | nil => simp [NumeralParts.text, NumeralParts.fractionText]
      | cons d' ds => simp [NumeralParts.text, NumeralParts.fractionText]

end LayOut

/-- A numeral whose decimal lies in the basin of a number is read as the number. -/
theorem number_of_spells {x : Finite64} {p : NumeralParts} {m : Nat} {e : Int} (hx : x.units ≠ 0) (hp : p.Spells m e)
    (h : x.InBasin m e) : number x.negative p.integer p.fraction p.exponent = .ok (.float (.finite x)) := by
  obtain ⟨k, hvalue, hexp⟩ := hp.value
  have hreal : ¬ (p.fraction = [] ∧ p.exponent = none) := by
    rintro ⟨hf, he⟩
    exact hp.real.elim (· hf) (· he)
  have hlt := Numeral.value_lt (p.integer ++ p.fraction)
  rw [number, if_neg hreal]
  simp only [hexp]
  rw [hvalue] at hlt ⊢
  rw [Finite64.ofDecimal_of_inBasin hx ((Finite64.inBasin_shift m k e).2 h) hlt]

theorem numeral_of_ne_zero {x : Finite64} (h : x.shortest.1 ≠ 0) : x.numeral = minus x.negative ++
    layOut (significantDigits x.shortest.1) (x.shortest.2 + (Numeral.ofNat x.shortest.1).length - 1) := by
  unfold Finite64.numeral
  generalize x.shortest = s at h ⊢
  obtain ⟨d, e⟩ := s
  cases d with
  | zero => exact absurd rfl h
  | succ d => rfl

/-- The parts of the numeral of a number make up the number again. -/
theorem exists_numeral (x : Finite64) : ∃ p : NumeralParts, x.numeral = minus x.negative ++ p.text ∧ p.Valid ∧
    number x.negative p.integer p.fraction p.exponent = .ok (.float (.finite x)) := by
  by_cases hx : x.units = 0
  · refine ⟨⟨[.char '0'], [.char '0'], none⟩, ?_, ?_, ?_⟩
    · rw [Finite64.numeral, Finite64.shortest, if_pos hx]
      rfl
    · exact ⟨Numeral.isDigits_replicate 1, List.cons_ne_nil _ _, fun _ => rfl, Numeral.isDigits_replicate 1⟩
    · have hzero := Finite64.ofDecimal_zero hx 2 (-1)
      rw [number, if_neg (by simp)]
      exact congrArg (Except.ok ∘ Scalar.float) hzero
  · have hbasin := Finite64.inBasin_shortest hx
    have hd := Finite64.inBasin_pos hx hbasin
    obtain ⟨z, hdigits, hne, hlead, hvalue, hlength⟩ := significantDigits_spec hd
    obtain ⟨p, htext, hp⟩ := exists_layOut hdigits hne hlead (x.shortest.2 + (Numeral.ofNat x.shortest.1).length - 1)
    refine ⟨p, ?_, hp.valid, number_of_spells hx hp ?_⟩
    · rw [numeral_of_ne_zero hd, htext]
    · rw [← Finite64.inBasin_shift _ z, ← hvalue]
      convert hbasin using 1
      omega

/-- A finite number is read back from its numeral. -/
theorem readPlain_numeral (x : Finite64) {rest : Text} (hrest : Stops rest) (i : Nat) :
    readPlain ⟨x.numeral ++ rest, i⟩ = .ok (.float (.finite x), ⟨rest, i + x.numeral.length⟩) := by
  obtain ⟨p, htext, hp, hnumber⟩ := exists_numeral x
  rw [htext, readPlain_text x.negative hp hrest, hnumber]
  rfl

end Json

end RecordPrint
