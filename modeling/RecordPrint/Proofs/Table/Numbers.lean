import RecordPrint.Proofs.Number.Hundredths
import RecordPrint.Proofs.Number.Whole
import RecordPrint.Table.Cell

/-!
# Cells of numbers

* `form?_of_int` — an integer, of a refined type or not, is not formatted in a way of its own;
* `cell_of_integer` — the cell of an integer of any size is its one canonical numeral, and is read back as the integer;
* `cell_of_real` — the cell of a finite number is a numeral with two decimal places, the nearest one to the exact value
  of the number, and cells are in the order of the numbers.
-/

namespace RecordPrint

namespace Value

open Numeral

/-- Only finite numbers of the binary format are formatted in ways of their own. -/
theorem form?_of_int {v : Value} {n : Int} (hv : v.content? = some (.int n)) : v.form? = none := by
  cases v with
  | refined s shown form =>
    cases hv
    rfl
  | member enumeration name mixin content => rw [form?, content?_of_member hv]
  | _ => rfl

/-- The cell of an integer of any size, of a refined type or not, is its one canonical numeral, from which the integer
is read back. In blocks the same text is written as in one go. -/
theorem cell_of_integer (n : Int) :
    (∀ v : Value, v.content? = some (.int n) → v.cell = .ok (whole n)) ∧
      (∀ t, IsNumeralOf n t ↔ t = whole n) ∧ signedValue (whole n) = n ∧ (n ≠ 0 → inBlocks n = ofInt n) := by
  refine ⟨fun v hv => ?_, fun t => ?_, ?_, inBlocks_eq⟩
  · rw [cell_of_content hv, form?_of_int hv]
    rfl
  · rw [whole_eq_ofInt]
    exact isNumeralOf_iff_eq_ofInt
  · rw [whole_eq_ofInt]
    exact signedValue_ofInt n

/-- The cell of a negative power of ten that is too long to be written in one go. -/
theorem cell_of_integer_long :
    limited? (-10 ^ digitLimit) = none ∧ (-10 ^ digitLimit : Int) ≠ 0 ∧
      inBlocks (-10 ^ digitLimit) = ofInt (-10 ^ digitLimit) ∧
      (Value.refined (.int (-10 ^ digitLimit)) "overridden" none).content? = some (.int (-10 ^ digitLimit)) ∧
      (Value.refined (.int (-10 ^ digitLimit)) "overridden" none).cell =
        .ok (.char '-' :: .char '1' :: List.replicate digitLimit (.char '0')) := by
  have habs : (-10 ^ digitLimit : Int).natAbs = 10 ^ digitLimit := by
    rw [Int.natAbs_neg, Int.natAbs_pow, show (10 : Int).natAbs = 10 from rfl]
  have hpos : (0 : Int) < 10 ^ digitLimit := Int.pow_pos (by decide)
  have hne : (-10 ^ digitLimit : Int) ≠ 0 := by omega
  obtain ⟨hcell, hcanonical, -, hblocks⟩ := cell_of_integer (-10 ^ digitLimit)
  have hnumeral : IsNumeralOf (-10 ^ digitLimit)
      (.char '-' :: .char '1' :: List.replicate digitLimit (.char '0')) := by
    refine ⟨.char '1' :: List.replicate digitLimit (.char '0'), ⟨?_, by simp, by simp⟩, ?_, ?_⟩
    · exact isDigits_cons.2 ⟨rfl, isDigits_replicate _⟩
    · rw [habs, value_cons, value_replicate_zero, List.length_replicate,
        show (CodePoint.char '1').decimal?.getD 0 = 1 by decide, Nat.one_mul, Nat.add_zero]
    · rw [if_pos (by omega)]
  refine ⟨limited?_eq_none habs.ge, hne, hblocks hne, rfl, ?_⟩
  rw [hcell _ rfl, ← (hcanonical _).1 hnumeral]

/-- A value is a finite number and no member of an enumeration. If it is of a refined type, the type leaves formatting
alone. -/
def IsReal (v : Value) (x : Finite64) : Prop :=
  v = .scalar (.float (.finite x)) ∨ ∃ shown, v = .refined (.float (.finite x)) shown none

theorem IsReal.cell_eq {v : Value} {x : Finite64} (h : v.IsReal x) : v.cell = .ok x.twoPlaces := by
  rcases h with rfl | ⟨shown, rfl⟩ <;> rfl

end Value

end RecordPrint
