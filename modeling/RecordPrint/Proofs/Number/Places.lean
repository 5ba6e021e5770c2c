import RecordPrint.Proofs.Number.Digits

/-!
# Digits at their places

Texts that start with digits, as many in the one as in the other, are in the order of the numbers first. This is so as
well if zeros at the end of the digits are left out and blanks stand behind them.

* `compare_padded_append` — numerals that zeros in front fill up to one length;
* `compare_trimmed` — digits of fractions, without the zeros at their ends.
-/

namespace RecordPrint

namespace Numeral

open Json (isDigit)

theorem compare_padded {width m n : Nat} (hwidth : 0 < width) (hm : m < 10 ^ width) (hn : n < 10 ^ width) :
    compare (padded width m) (padded width n) = compare m n := by
  have hlen : (padded width m).length = (padded width n).length := by
    rw [length_padded hwidth hm, length_padded hwidth hn]
  rw [compare_eq_compare_value (isDigits_padded _ _) (isDigits_padded _ _) hlen, value_padded, value_padded]

theorem compare_padded_append {width m n : Nat} (hwidth : 0 < width) (hm : m < 10 ^ width) (hn : n < 10 ^ width)
    (u v : Text) :
    compare (padded width m ++ u) (padded width n ++ v) = (compare m n).then (compare u v) := by
  rw [Text.compare_append, compare_padded hwidth hm hn]
  rw [length_padded hwidth hm, length_padded hwidth hn]

/-! ### Digits without the zeros at their end -/

theorem last_ne_of_cons {c d : CodePoint} {t : Text} (h : (c :: t).getLast? ≠ some d) : t.getLast? ≠ some d := by
  intro hlast
  exact h (by rw [List.getLast?_cons, hlast, Option.getD_some])

theorem blank_lt {c : CodePoint} (hc : isDigit c = true) : (CodePoint.char ' ').toNat < c.toNat := by
  simp only [isDigit, Bool.and_eq_true, decide_eq_true_eq] at hc
  have hblank : (CodePoint.char ' ').toNat = 32 := rfl
  omega

/-- Digits that do not end in a zero have another value than zero. -/
theorem value_ne_zero {t : Text} (ht : IsDigits t) (hne : t ≠ []) (hlast : t.getLast? ≠ some (.char '0')) :
    value t ≠ 0 := by
  intro hvalue
  have hzeros : t = List.replicate t.length (.char '0') := by
    refine eq_of_value_eq ht (isDigits_replicate _) List.length_replicate.symm ?_
    rw [hvalue, value_replicate_zero]
  refine hlast ?_
  rw [hzeros, List.getLast?_replicate, if_neg (List.length_pos_iff.2 hne).ne']

/-- Zeros are in front of digits that do not end in a zero, with zeros behind these up to the same length. -/
theorem compare_zeros_lt {t : Text} (ht : IsDigits t) (hne : t ≠ []) (hlast : t.getLast? ≠ some (.char '0')) (w : Nat) :
    compare (List.replicate (t.length + w) (.char '0')) (t ++ List.replicate w (.char '0')) = .lt := by
  have hpos : 0 < value t := Nat.pos_of_ne_zero (value_ne_zero ht hne hlast)
  rw [compare_eq_compare_value (isDigits_replicate _) (isDigits_append.2 ⟨ht, isDigits_replicate w⟩), value_replicate_zero,
    value_append, value_replicate_zero, List.length_replicate, Nat.add_zero, Nat.compare_eq_lt]
  · exact Nat.mul_pos hpos (Nat.pow_pos (by decide))
  · rw [List.length_append, List.length_replicate, List.length_replicate]

/-- Digits that do not end in a zero, with blanks behind them, are in the order of the digits that zeros fill up to one
length. -/
theorem compare_trimmed {s t : Text} {m n : Nat} (hs : IsDigits s) (ht : IsDigits t)
    (hslast : s.getLast? ≠ some (.char '0')) (htlast : t.getLast? ≠ some (.char '0'))
    (hlen : s.length + m = t.length + n) (u v : Text) :
    compare (s ++ .char ' ' :: u) (t ++ .char ' ' :: v) =
      (compare (s ++ List.replicate m (.char '0')) (t ++ List.replicate n (.char '0'))).then (compare u v) := by
  induction s generalizing t with
  | nil =>
    cases t with
    | nil =>
      have hmn : m = n := by simpa using hlen
      rw [hmn, List.nil_append, List.nil_append, List.nil_append, Text.compare_self, Text.compare_cons,
        Ordering.eq_then]
    | cons d t =>
      -- the shorter text is at its blank
      have hm : m = (d :: t).length + n := by simpa using hlen
      rw [hm, List.nil_append, List.nil_append, compare_zeros_lt ht (List.cons_ne_nil d t) htlast, Ordering.lt_then,
        List.cons_append, Text.compare_cons_lt (blank_lt (isDigits_cons.1 ht).1)]
  | cons c s ih =>
    cases t with
    | nil =>
      have hn : n = (c :: s).length + m := by simpa using hlen.symm
      rw [hn, List.nil_append, List.nil_append,
        Std.OrientedCmp.gt_of_lt (compare_zeros_lt hs (List.cons_ne_nil c s) hslast m), Ordering.gt_then, List.cons_append,
        Std.OrientedCmp.gt_of_lt (Text.compare_cons_lt (blank_lt (isDigits_cons.1 hs).1) v _)]
    | cons d t =>
      have hlen : s.length + m = t.length + n := by
        simp only [List.length_cons] at hlen
        omega
      rw [List.cons_append, List.cons_append, List.cons_append, List.cons_append, List.compare_cons_cons,
        List.compare_cons_cons, ih (isDigits_cons.1 hs).2 (isDigits_cons.1 ht).2 (last_ne_of_cons hslast)
          (last_ne_of_cons htlast) hlen,
        Ordering.then_assoc]

end Numeral

end RecordPrint
