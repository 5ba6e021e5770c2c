import RecordPrint.Number.Shortest
import Mathlib.Data.Nat.Log
import Mathlib.Tactic.Ring
import Mathlib.Tactic.Linarith

/-!
# Nearest numbers

Every ratio in the basin of a number is rounded to the number.

* `roundHalfEven_spec`, `roundHalfEven_eq` — a quotient is rounded to the one number at most one half away, which is
  even if it is exactly one half away;
* `ofRatio_of_contains` — the nearest number of a ratio in a basin. A ratio in the lower part of the basin of a power
  of two is rounded on the finer grid below it, and carried.
-/

namespace RecordPrint

theorem roundHalfEven_eq {num den q : Nat} (hden : 0 < den) (lower : 2 * q * den ≤ 2 * num + den)
    (upper : 2 * num ≤ (2 * q + 1) * den)
    (tie : 2 * q * den = 2 * num + den ∨ 2 * num = (2 * q + 1) * den → q % 2 = 0) : roundHalfEven num den = q := by
  have hdiv : den * (num / den) + num % den = num := Nat.div_add_mod num den
  have hrem : num % den < den := Nat.mod_lt _ hden
  unfold roundHalfEven
  generalize num / den = n at hdiv
  generalize num % den = r at hdiv hrem
  subst hdiv
  simp only
  split_ifs with h1 h2 h3
  · have hle : q < n + 1 := by nlinarith
    have hge : n < q + 1 := by nlinarith
    omega
  · have hle : q < n + 2 := by nlinarith
    have hge : n < q := by nlinarith
    omega
  · have hle : q < n + 2 := by nlinarith
    have hge : n < q + 1 := by nlinarith
    rcases (by omega : q = n ∨ q = n + 1) with rfl | rfl
    · rfl
    · have := tie (.inl (by nlinarith))
      omega
  · have hle : q < n + 2 := by nlinarith
    have hge : n < q + 1 := by nlinarith
    rcases (by omega : q = n ∨ q = n + 1) with rfl | rfl
    · have := tie (.inr (by nlinarith))
      omega
    · rfl

namespace Binary64

/-- The scale of the grid on which a magnitude is rounded. -/
def scaleOf (units : Nat) : Nat := if units < 2 ^ 53 then 0 else Nat.log2 units - 52

theorem scaleOf_eq_zero {units : Nat} (h : units < 2 ^ 53) : scaleOf units = 0 := if_pos h

theorem scaleOf_eq {units s : Nat} (lower : 2 ^ (52 + s) ≤ units) (upper : units < 2 ^ (53 + s)) :
    scaleOf units = s := by
  have hpos : units ≠ 0 := by
    rintro rfl
    exact absurd lower (Nat.not_le.2 (Nat.two_pow_pos _))
  have hlog : Nat.log2 units = 52 + s := by
    rw [Nat.log2_eq_iff hpos]
    exact ⟨lower, by rwa [show 52 + s + 1 = 53 + s by omega]⟩
  unfold scaleOf
  split_ifs with h
  · -- below the first power of two that is rounded there is only the finest grid
    have hlt : 52 + s < 53 := (Nat.pow_lt_pow_iff_right (by decide)).1 (lower.trans_lt h)
    omega
  · omega

theorem ofRatio_eq {negative : Bool} {num den s q : Nat} (hscale : scaleOf (num * unitsPerOne / den) = s)
    (hround : roundHalfEven (num * unitsPerOne) (den * 2 ^ s) = q) :
    ofRatio negative num den =
      if q = 2 ^ 53 then ofParts negative (2 ^ 52) (s + 1) else ofParts negative q s := by
  subst hscale hround
  rfl

theorem ofParts_eq (x : Finite64) : ofParts x.negative x.significand x.scale = .finite x :=
  dif_pos ⟨x.significand_lt, x.scale_le, x.normal⟩

end Binary64

namespace Finite64

theorem units_eq (x : Finite64) : x.units = x.significand * 2 ^ x.scale := rfl

theorem significand_lt_pow (x : Finite64) : x.significand < 2 ^ 53 := x.significand_lt

/-- The distance from four times a number to the lower end of its basin. -/
def lowerGap (x : Finite64) : Nat := if x.significand = 2 ^ 52 ∧ 0 < x.scale then 2 ^ x.scale else 2 * 2 ^ x.scale

theorem lowerGap_le (x : Finite64) : x.lowerGap ≤ 2 * 2 ^ x.scale := by
  unfold lowerGap
  split_ifs <;> omega

theorem low_basin (x : Finite64) : x.basin.low = 4 * x.units - x.lowerGap := rfl

theorem high_basin (x : Finite64) : x.basin.high = 4 * x.units + 2 * 2 ^ x.scale := rfl

/-- The bounds of a basin; odd numbers do not take the bounds themselves. -/
theorem bounds_of_contains {x : Finite64} {num den : Nat} (h : x.basin.contains num den = true) :
    4 * x.units * den ≤ num + x.lowerGap * den ∧ num ≤ 4 * x.units * den + 2 * 2 ^ x.scale * den ∧
      (x.significand % 2 = 1 →
        4 * x.units * den < num + x.lowerGap * den ∧ num < 4 * x.units * den + 2 * 2 ^ x.scale * den) := by
  unfold Basin.contains at h
  rw [low_basin, high_basin, Nat.sub_mul, Nat.add_mul] at h
  have hclosed : x.basin.closed = decide (x.significand % 2 = 0) := rfl
  rw [hclosed] at h
  split_ifs at h with heven
  · simp only [decide_eq_true_eq] at heven
    simp only [Bool.and_eq_true, decide_eq_true_eq] at h
    refine ⟨by omega, by omega, fun hodd => ?_⟩
    omega
  · simp only [Bool.and_eq_true, decide_eq_true_eq] at h
    exact ⟨by omega, by omega, fun _ => ⟨by omega, by omega⟩⟩

theorem contains_of_bounds {x : Finite64} {num den : Nat}
    (lower : 4 * x.units * den < num + x.lowerGap * den) (pos : 0 < num)
    (upper : num < 4 * x.units * den + 2 * 2 ^ x.scale * den) : x.basin.contains num den = true := by
  unfold Basin.contains
  rw [low_basin, high_basin, Nat.sub_mul, Nat.add_mul]
  split_ifs
  · simp only [Bool.and_eq_true, decide_eq_true_eq]
    omega
  · simp only [Bool.and_eq_true, decide_eq_true_eq]
    omega

section Rounding

variable {x : Finite64} {n den : Nat}

/-- The bounds of a basin, counted on the grid of the number. -/
theorem grid_bounds (h : x.basin.contains (4 * n) den = true) :
    4 * (x.significand * (den * 2 ^ x.scale)) ≤ 4 * n + x.lowerGap * den ∧
      4 * n ≤ 4 * (x.significand * (den * 2 ^ x.scale)) + 2 * (den * 2 ^ x.scale) ∧
      (x.significand % 2 = 1 →
        4 * (x.significand * (den * 2 ^ x.scale)) < 4 * n + x.lowerGap * den ∧
          4 * n < 4 * (x.significand * (den * 2 ^ x.scale)) + 2 * (den * 2 ^ x.scale)) := by
  have hunits : 4 * x.units * den = 4 * (x.significand * (den * 2 ^ x.scale)) := by
    rw [units_eq]
    ring
  have hstep : 2 * 2 ^ x.scale * den = 2 * (den * 2 ^ x.scale) := by ring
  rw [← hunits, ← hstep]
  exact bounds_of_contains h

/-- A ratio is below a power of two, and the number is this power of two. -/
def IsBelow (x : Finite64) (n den : Nat) : Prop :=
  x.significand = 2 ^ 52 ∧ 0 < x.scale ∧ n < 2 ^ 52 * (den * 2 ^ x.scale)

theorem lowerGap_mul (x : Finite64) (den : Nat) :
    x.lowerGap * den = if x.significand = 2 ^ 52 ∧ 0 < x.scale then den * 2 ^ x.scale
      else 2 * (den * 2 ^ x.scale) := by
  unfold lowerGap
  split_ifs <;> ring

theorem roundHalfEven_of_contains (hden : 0 < den) (h : x.basin.contains (4 * n) den = true)
    (hbelow : ¬ IsBelow x n den) : roundHalfEven n (den * 2 ^ x.scale) = x.significand := by
  obtain ⟨lower, upper, strict⟩ := grid_bounds h
  have hgrid : 0 < den * 2 ^ x.scale := Nat.mul_pos hden (Nat.two_pow_pos _)
  rw [lowerGap_mul] at lower strict
  unfold IsBelow at hbelow
  generalize den * 2 ^ x.scale = g at *
  have hdouble : 2 * x.significand * g = 2 * (x.significand * g) := Nat.mul_assoc _ _ _
  have hhalf : (2 * x.significand + 1) * g = 2 * (x.significand * g) + g := by ring
  refine roundHalfEven_eq hgrid ?_ ?_ fun tie => ?_
  · rw [hdouble]
    split_ifs at lower with hpower
    · -- the ratio is not below the power of two, so it is not nearer to the finer grid
      have hle : 2 ^ 52 * g ≤ n := Nat.not_lt.1 fun hlt => hbelow ⟨hpower.1, hpower.2, hlt⟩
      rw [hpower.1]
      omega
    · omega
  · rw [hhalf]
    omega
  · rw [hdouble, hhalf] at tie
    by_contra hodd
    have hodd : x.significand % 2 = 1 := by omega
    obtain ⟨slower, supper⟩ := strict hodd
    have hpower : ¬ (x.significand = 2 ^ 52 ∧ 0 < x.scale) := by
      rintro ⟨heq, -⟩
      rw [heq] at hodd
      omega
    rw [if_neg hpower] at slower
    omega

theorem scaleOf_of_contains (hden : 0 < den) (h : x.basin.contains (4 * n) den = true)
    (hbelow : ¬ IsBelow x n den) : Binary64.scaleOf (n / den) = x.scale := by
  obtain ⟨lower, upper, -⟩ := grid_bounds h
  have hgrid : 0 < den * 2 ^ x.scale := Nat.mul_pos hden (Nat.two_pow_pos _)
  have hsig := x.significand_lt
  have hlt : n < 2 ^ 53 * (den * 2 ^ x.scale) := by
    have : (x.significand + 1) * (den * 2 ^ x.scale) ≤ 2 ^ 53 * (den * 2 ^ x.scale) :=
      Nat.mul_le_mul_right _ hsig
    rw [Nat.add_mul] at this
    omega
  rcases Nat.eq_zero_or_pos x.scale with hzero | hpos
  · rw [hzero]
    refine Binary64.scaleOf_eq_zero ((Nat.div_lt_iff_lt_mul hden).2 ?_)
    rw [hzero, pow_zero, Nat.mul_one] at hlt
    exact hlt
  · have hnormal : 2 ^ 52 ≤ x.significand := x.normal.resolve_right (by omega)
    have hge : 2 ^ 52 * (den * 2 ^ x.scale) ≤ n := by
      by_cases hpower : x.significand = 2 ^ 52
      · exact Nat.not_lt.1 fun hlt => hbelow ⟨hpower, hpos, hlt⟩
      · rw [lowerGap_mul, if_neg fun hp => hpower hp.1] at lower
        have : (2 ^ 52 + 1) * (den * 2 ^ x.scale) ≤ x.significand * (den * 2 ^ x.scale) :=
          Nat.mul_le_mul_right _ (by omega)
        rw [Nat.add_mul] at this
        omega
    refine Binary64.scaleOf_eq ?_ ?_
    · rw [Nat.le_div_iff_mul_le hden, pow_add]
      linarith
    · rw [Nat.div_lt_iff_lt_mul hden, pow_add]
      linarith

/-- Below a power of two the grid is the next finer one, and the ratio is rounded to its last point. -/
theorem carried_of_isBelow (hden : 0 < den) (h : x.basin.contains (4 * n) den = true) (hbelow : IsBelow x n den) :
    Binary64.scaleOf (n / den) = x.scale - 1 ∧ roundHalfEven n (den * 2 ^ (x.scale - 1)) = 2 ^ 53 := by
  obtain ⟨lower, upper, -⟩ := grid_bounds h
  obtain ⟨hpower, hpos, hlt⟩ := hbelow
  rw [lowerGap_mul, if_pos ⟨hpower, hpos⟩, hpower] at lower
  -- in units of the finer grid the power of two is `2 ^ 53`, one more than the greatest significand
  obtain ⟨s, hs⟩ : ∃ s, x.scale = s + 1 := ⟨x.scale - 1, by omega⟩
  rw [hs] at lower hlt ⊢
  rw [Nat.add_sub_cancel]
  have hdouble : den * 2 ^ (s + 1) = 2 * (den * 2 ^ s) := by ring
  rw [hdouble] at lower hlt
  have hgrid : 0 < den * 2 ^ s := Nat.mul_pos hden (Nat.two_pow_pos _)
  have hlow : 2 ^ 52 * 2 ^ s * den = 2 ^ 52 * (den * 2 ^ s) := by ring
  have hhigh : 2 ^ 53 * 2 ^ s * den = 2 ^ 53 * (den * 2 ^ s) := by ring
  refine ⟨Binary64.scaleOf_eq ?_ ?_, roundHalfEven_eq hgrid (by omega) (by omega) fun _ => rfl⟩
  · rw [Nat.le_div_iff_mul_le hden, pow_add, hlow]
    omega
  · rw [Nat.div_lt_iff_lt_mul hden, pow_add, hhigh]
    omega

end Rounding

/-- The nearest number of a ratio in the basin of a number is the number. -/
theorem ofRatio_of_contains {x : Finite64} {num den : Nat} (hden : 0 < den)
    (h : x.basin.contains (4 * (num * Binary64.unitsPerOne)) den = true) :
    Binary64.ofRatio x.negative num den = .finite x := by
  by_cases hbelow : IsBelow x (num * Binary64.unitsPerOne) den
  · obtain ⟨hscale, hround⟩ := carried_of_isBelow hden h hbelow
    obtain ⟨hpower, hpos, -⟩ := hbelow
    rw [Binary64.ofRatio_eq hscale hround, if_pos rfl, ← hpower, Nat.sub_add_cancel hpos, Binary64.ofParts_eq]
  · have hscale := scaleOf_of_contains hden h hbelow
    have hround := roundHalfEven_of_contains hden h hbelow
    rw [Binary64.ofRatio_eq hscale hround, if_neg (Nat.ne_of_lt x.significand_lt_pow), Binary64.ofParts_eq]

end Finite64

end RecordPrint
