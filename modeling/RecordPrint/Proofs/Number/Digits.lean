import RecordPrint.Json.Reader
import RecordPrint.Proofs.Order
import Mathlib.Data.Nat.Log
import Mathlib.Tactic.Ring

/-!
# Digits and their value

Texts of decimal digits and the numbers they stand for. The numeral of a number is read as the number, has no zero
in front, and its length says between which powers of ten the number lies.

* `compare_eq_compare_value` — texts of as many digits are in the order of their values, so there is one for each value;
* `IsCanonical`, `ofNat_value` — a text of digits without needless zeros in front is the numeral of its value, so there
  is one such text for each number;
* `ofNat_div_append` — the numeral of a number is cut into that of its high part and the digits of its low part.
-/

namespace RecordPrint

namespace Numeral

open Json (isDigit)

/-- A text of decimal digits. -/
def IsDigits (t : Text) : Prop := ∀ c ∈ t, isDigit c = true

theorem isDigits_append {s t : Text} : IsDigits (s ++ t) ↔ IsDigits s ∧ IsDigits t := by
  simp [IsDigits, or_imp, forall_and]

theorem isDigits_cons {c : CodePoint} {t : Text} : IsDigits (c :: t) ↔ isDigit c = true ∧ IsDigits t := by
  simp [IsDigits]

theorem isDigits_replicate (n : Nat) : IsDigits (List.replicate n (.char '0')) := by
  intro c hc
  rw [List.eq_of_mem_replicate hc]
  rfl

theorem IsDigits.sublist {s t : Text} (h : s.Sublist t) (ht : IsDigits t) : IsDigits s :=
  fun c hc => ht c (h.subset hc)

theorem head_ne_minus {t : Text} (h : IsDigits t) : t.head? ≠ some (.char '-') := by
  intro hminus
  have hdigit := h _ (List.mem_of_mem_head? hminus)
  exact absurd hdigit (by decide)

/-! ### Values -/

theorem decimal?_of_isDigit {c : CodePoint} (h : isDigit c = true) : c.decimal? = some (c.toNat - 48) := by
  simp only [isDigit, Bool.and_eq_true, decide_eq_true_eq] at h
  simp [CodePoint.decimal?, digitZeros, h.1, h.2]

theorem valueBehind_eq (high : Nat) (t : Text) : valueBehind high t = high * 10 ^ t.length + value t := by
  induction t generalizing high with
  | nil => simp [valueBehind, value]
  | cons c t ih =>
    rw [value, valueBehind, valueBehind, ih, ih (10 * 0 + _), List.length_cons]
    ring

theorem value_cons (c : CodePoint) (t : Text) : value (c :: t) = (c.decimal?.getD 0) * 10 ^ t.length + value t := by
  rw [value, valueBehind, valueBehind_eq]
  ring

theorem value_append (s t : Text) : value (s ++ t) = value s * 10 ^ t.length + value t := by
  induction s with
  | nil => simp [value, valueBehind]
  | cons c s ih =>
    rw [List.cons_append, value_cons, ih, value_cons, List.length_append, pow_add]
    ring

theorem value_zero_cons (t : Text) : value (.char '0' :: t) = value t := by
  have hzero : (CodePoint.char '0').decimal?.getD 0 = 0 := by decide
  rw [value_cons, hzero]
  simp

theorem value_replicate_zero (n : Nat) : value (List.replicate n (.char '0')) = 0 := by
  induction n with
  | zero => rfl
  | succ n ih =>
    rw [List.replicate_succ, value_zero_cons, ih]

theorem getD_decimal?_le (c : CodePoint) : c.decimal?.getD 0 ≤ 9 := by
  rw [CodePoint.decimal?]
  cases h : digitZeros.find? fun z => z ≤ c.toNat && c.toNat ≤ z + 9 with
  | none => exact Nat.zero_le 9
  | some z =>
    have hin := List.find?_some h
    simp only [Bool.and_eq_true, decide_eq_true_eq] at hin
    simp only [Option.map_some, Option.getD_some]
    omega

/-- A text has no greater value than as many nines. -/
theorem value_lt (t : Text) : value t < 10 ^ t.length := by
  induction t with
  | nil => exact Nat.one_pos
  | cons c t ih =>
    have hle : c.decimal?.getD 0 * 10 ^ t.length ≤ 9 * 10 ^ t.length :=
      Nat.mul_le_mul_right _ (getD_decimal?_le c)
    rw [value_cons, List.length_cons, pow_succ]
    omega

/-! ### Order -/

theorem compare_isDigit {c d : CodePoint} (hc : isDigit c = true) (hd : isDigit d = true) :
    compare c d = compare (c.toNat - 48) (d.toNat - 48) := by
  simp only [isDigit, Bool.and_eq_true, decide_eq_true_eq] at hc hd
  rw [CodePoint.compare_eq, ← compare_add_left 48 (c.toNat - 48), Nat.add_sub_cancel' hc.1, Nat.add_sub_cancel' hd.1]

/-- Texts of as many digits are in the order of their values. -/
theorem compare_eq_compare_value {s t : Text} (hs : IsDigits s) (ht : IsDigits t) (hlen : s.length = t.length) :
    compare s t = compare (value s) (value t) := by
  induction s generalizing t with
  | nil =>
    rw [List.length_eq_zero_iff.1 hlen.symm]
    rfl
  | cons c s ih =>
    cases t with
    | nil => cases hlen
    | cons d t =>
      obtain ⟨hc, hs⟩ := isDigits_cons.1 hs
      obtain ⟨hd, ht⟩ := isDigits_cons.1 ht
      have hlen : s.length = t.length := Nat.succ.inj hlen
      rw [value_cons, value_cons, decimal?_of_isDigit hc, decimal?_of_isDigit hd, Option.getD_some, Option.getD_some,
        hlen, compare_mul_add (hlen ▸ value_lt s) (value_lt t), ← compare_isDigit hc hd, ← ih hs ht hlen,
        List.compare_cons_cons]

/-- Texts of as many digits that have the same value are the same. -/
theorem eq_of_value_eq {s t : Text} (hs : IsDigits s) (ht : IsDigits t) (hlen : s.length = t.length)
    (h : value s = value t) : s = t := by
  have hcompare : compare s t = .eq := by
    rw [compare_eq_compare_value hs ht hlen, h, Std.ReflOrd.compare_self]
  exact Std.LawfulEqOrd.eq_of_compare hcompare

/-! ### Numerals -/

theorem isDigits_ofNat (n : Nat) : IsDigits (ofNat n) := by
  intro c hc
  obtain ⟨d, hd, rfl⟩ := List.mem_map.1 hc
  have hdigit : d.isDigit = true := Nat.isDigit_of_mem_toDigits (by decide) (by decide) hd
  simp only [Char.isDigit, Bool.and_eq_true, decide_eq_true_eq, UInt32.le_iff_toNat_le] at hdigit
  simp only [isDigit, Bool.and_eq_true, decide_eq_true_eq]
  exact hdigit

theorem valueBehind_ofChars {ds : List Char} (h : IsDigits (Text.ofChars ds)) (high : Nat) :
    valueBehind high (Text.ofChars ds) = Nat.ofDigitChars 10 ds high := by
  induction ds generalizing high with
  | nil => simp [Text.ofChars, valueBehind]
  | cons d ds ih =>
    obtain ⟨hd, hds⟩ := isDigits_cons.1 h
    rw [Nat.ofDigitChars_cons, ← ih hds]
    simp only [Text.ofChars, List.map_cons, valueBehind, decimal?_of_isDigit hd, Option.getD_some]
    rfl

theorem value_ofNat (n : Nat) : value (ofNat n) = n := by
  rw [value, ofNat, valueBehind_ofChars (isDigits_ofNat n)]
  exact Nat.ofDigitChars_ten_toDigits

theorem ofNat_ne_nil (n : Nat) : ofNat n ≠ [] := by
  simp [ofNat, Text.ofChars]

theorem length_ofNat_pos (n : Nat) : 0 < (ofNat n).length := List.length_pos_iff.2 (ofNat_ne_nil n)

theorem length_ofNat_le_iff {n k : Nat} (hk : 0 < k) : (ofNat n).length ≤ k ↔ n < 10 ^ k := by
  rw [ofNat, Text.ofChars, List.length_map]
  exact Nat.length_toDigits_le_iff (by decide) hk

theorem pow_length_ofNat_le {n : Nat} (hn : n ≠ 0) : 10 ^ ((ofNat n).length - 1) ≤ n := by
  rcases Nat.eq_zero_or_pos ((ofNat n).length - 1) with h | h
  · rw [h, pow_zero]
    omega
  · by_contra hlt
    have := (length_ofNat_le_iff h).2 (Nat.lt_of_not_le hlt)
    omega

/-- The numeral of a number other than zero does not start with a zero. -/
theorem head_ofNat {n : Nat} (hn : n ≠ 0) {c : CodePoint} {t : Text} (h : ofNat n = c :: t) : c ≠ .char '0' := by
  rintro rfl
  have hvalue : value t = n := by
    rw [← value_zero_cons, ← h, value_ofNat]
  have hle := pow_length_ofNat_le hn
  rw [h, List.length_cons, Nat.add_sub_cancel, ← hvalue] at hle
  exact absurd (value_lt t) (Nat.not_lt.2 hle)

theorem padded_eq (width n : Nat) :
    padded width n = List.replicate (width - (ofNat n).length) (.char '0') ++ ofNat n := rfl

theorem isDigits_padded (width n : Nat) : IsDigits (padded width n) := by
  rw [padded_eq, isDigits_append]
  exact ⟨isDigits_replicate _, isDigits_ofNat n⟩

theorem value_padded (width n : Nat) : value (padded width n) = n := by
  rw [padded_eq, value_append, value_replicate_zero, value_ofNat]
  simp

theorem padded_ne_nil (width n : Nat) : padded width n ≠ [] := by
  rw [padded_eq]
  simp [ofNat_ne_nil]

/-- The digits of a number that is small enough fill a field of a given width. -/
theorem length_padded {width n : Nat} (hwidth : 0 < width) (hn : n < 10 ^ width) : (padded width n).length = width := by
  have hle := (length_ofNat_le_iff hwidth).2 hn
  rw [padded_eq, List.length_append, List.length_replicate]
  omega

/-- A text is followed by the zeros at its end. -/
theorem exists_trimmed (t : Text) :
    ∃ z, t = (t.reverse.dropWhile (· = .char '0')).reverse ++ List.replicate z (.char '0') := by
  refine ⟨(t.reverse.takeWhile (· = .char '0')).length, ?_⟩
  have hsplit := List.takeWhile_append_dropWhile (p := (· = CodePoint.char '0')) (l := t.reverse)
  have hzeros : t.reverse.takeWhile (· = CodePoint.char '0') =
      List.replicate (t.reverse.takeWhile (· = .char '0')).length (.char '0') := by
    refine List.eq_replicate_iff.2 ⟨rfl, fun c hc => ?_⟩
    simpa using List.all_eq_true.1 List.all_takeWhile c hc
  calc t = t.reverse.reverse := (List.reverse_reverse _).symm
    _ = (t.reverse.dropWhile (· = CodePoint.char '0')).reverse ++
        (t.reverse.takeWhile (· = CodePoint.char '0')).reverse := by rw [← List.reverse_append, hsplit]
    _ = _ := by rw [hzeros, List.reverse_replicate, List.length_replicate]

/-! ### Canonical texts -/

/-- A text of digits without needless zeros in front. -/
structure IsCanonical (t : Text) : Prop where
  digits : IsDigits t
  nonempty : t ≠ []
  leading : t.head? = some (.char '0') → t = [.char '0']

theorem isCanonical_ofNat (n : Nat) : IsCanonical (ofNat n) where
  digits := isDigits_ofNat n
  nonempty := ofNat_ne_nil n
  leading := by
    intro h
    by_cases hn : n = 0
    · rw [hn]
      rfl
    · obtain ⟨t, ht⟩ := List.head?_eq_some_iff.1 h
      exact absurd rfl (head_ofNat hn ht)

theorem pow_le_value {c : CodePoint} {t : Text} (hc : isDigit c = true) (hne : c ≠ .char '0') :
    10 ^ t.length ≤ value (c :: t) := by
  have hpos : 1 ≤ c.toNat - 48 := by
    by_contra hzero
    have hdigit := hc
    simp only [isDigit, Bool.and_eq_true, decide_eq_true_eq] at hdigit
    have hnat : c.toNat = (CodePoint.char '0').toNat := by
      change c.toNat = 48
      omega
    exact hne (CodePoint.toNat_injective hnat)
  rw [value_cons, decimal?_of_isDigit hc, Option.getD_some]
  calc 10 ^ t.length = 1 * 10 ^ t.length := (Nat.one_mul _).symm
    _ ≤ (c.toNat - 48) * 10 ^ t.length := Nat.mul_le_mul_right _ hpos
    _ ≤ _ := Nat.le_add_right _ _

/-- A text of digits without needless zeros is the numeral of its value. -/
theorem ofNat_value {t : Text} (h : IsCanonical t) : ofNat (value t) = t := by
  obtain ⟨c, u, rfl⟩ := List.exists_cons_of_ne_nil h.nonempty
  obtain ⟨hc, -⟩ := isDigits_cons.1 h.digits
  by_cases hzero : c = .char '0'
  · have hsingle := h.leading (congrArg some hzero)
    rw [hsingle]
    rfl
  · have hlow : 10 ^ u.length ≤ value (c :: u) := pow_le_value hc hzero
    refine eq_of_value_eq (isDigits_ofNat _) h.digits ?_ (value_ofNat _)
    have hle := (length_ofNat_le_iff (Nat.succ_pos u.length)).2 (value_lt (c :: u))
    have hpos := length_ofNat_pos (value (c :: u))
    have hge : ¬ (ofNat (value (c :: u))).length ≤ u.length := by
      intro hshort
      exact absurd ((length_ofNat_le_iff (by omega)).1 hshort) (Nat.not_lt.2 hlow)
    rw [List.length_cons]
    omega

/-- The numeral of a number is that of its high part, with the digits of its low part behind it. -/
theorem ofNat_div_append {n k : Nat} (hk : 0 < k) (h : 10 ^ k ≤ n) :
    ofNat (n / 10 ^ k) ++ padded k (n % 10 ^ k) = ofNat n := by
  have hpow : 0 < 10 ^ k := Nat.pow_pos (by decide)
  have hhigh : n / 10 ^ k ≠ 0 := Nat.ne_of_gt (Nat.div_pos h hpow)
  have hcanonical : IsCanonical (ofNat (n / 10 ^ k) ++ padded k (n % 10 ^ k)) := by
    refine ⟨isDigits_append.2 ⟨isDigits_ofNat _, isDigits_padded _ _⟩, by simp [ofNat_ne_nil], ?_⟩
    intro hzero
    obtain ⟨c, t, ht⟩ := List.exists_cons_of_ne_nil (ofNat_ne_nil (n / 10 ^ k))
    rw [ht] at hzero
    exact absurd (Option.some.inj hzero) (head_ofNat hhigh ht)
  have hvalue : value (ofNat (n / 10 ^ k) ++ padded k (n % 10 ^ k)) = n := by
    rw [value_append, value_ofNat, value_padded, length_padded hk (Nat.mod_lt _ hpow), Nat.mul_comm]
    exact Nat.div_add_mod n (10 ^ k)
  rw [← ofNat_value hcanonical, hvalue]

/-! ### Limited numerals -/

theorem limited?_eq_some {n : Int} (h : (ofNat n.natAbs).length ≤ digitLimit) : limited? n = some (ofInt n) :=
  if_pos h

theorem limited?_eq_none {n : Int} (h : 10 ^ digitLimit ≤ n.natAbs) : limited? n = none := by
  refine if_neg fun hle => ?_
  exact absurd ((length_ofNat_le_iff (by decide)).1 hle) (Nat.not_lt.2 h)

end Numeral

end RecordPrint
