import RecordPrint.Text.CodePoint

/-!
# Binary floating-point numbers

The numbers of the 64-bit binary format, exactly: a finite one is `± significand * 2 ^ scale` units of
`2 ^ -1074`. `Binary64.ofDecimal` gives the number nearest to a decimal numeral.
-/

namespace RecordPrint

/-- The natural number nearest to `num / den`; of two equally near ones the even one. -/
def roundHalfEven (num den : Nat) : Nat :=
  let q := num / den
  let r := num % den
  if 2 * r < den then q
  else if den < 2 * r then q + 1
  else if q % 2 = 0 then q else q + 1

/-- A finite number: `± significand * 2 ^ scale / 2 ^ 1074`. -/
structure Finite64 where
  negative : Bool
  significand : Nat
  scale : Nat
  significand_lt : significand < Nat.pow 2 53
  scale_le : scale ≤ 2045
  normal : Nat.pow 2 52 ≤ significand ∨ scale = 0
  deriving DecidableEq

/-- The magnitude of a finite number, counted in units of `2 ^ -1074`. -/
def Finite64.units (x : Finite64) : Nat := x.significand * Nat.pow 2 x.scale

/-- A number of the 64-bit binary format. -/
inductive Binary64 where
  | nan
  | infinite (negative : Bool)
  | finite (x : Finite64)
  deriving DecidableEq

namespace Binary64

/-- The number of units of `2 ^ -1074` in one. -/
def unitsPerOne : Nat := Nat.pow 2 1074

def zero (negative : Bool) : Binary64 :=
  .finite ⟨negative, 0, 0, by decide, by decide, .inr rfl⟩

/-- `± significand * 2 ^ scale` units where this is in the format, otherwise an infinity. -/
def ofParts (negative : Bool) (significand scale : Nat) : Binary64 :=
  if h : significand < Nat.pow 2 53 ∧ scale ≤ 2045 ∧ (Nat.pow 2 52 ≤ significand ∨ scale = 0) then
    .finite ⟨negative, significand, scale, h.1, h.2.1, h.2.2⟩
  else .infinite negative

/-- The number nearest to `± num / den`; of two equally near ones the one with the even significand. -/
def ofRatio (negative : Bool) (num den : Nat) : Binary64 :=
  let units := num * unitsPerOne / den
  let scale := if units < Nat.pow 2 53 then 0 else Nat.log2 units - 52
  let significand := roundHalfEven (num * unitsPerOne) (den * Nat.pow 2 scale)
  if significand = Nat.pow 2 53 then ofParts negative (Nat.pow 2 52) (scale + 1)
  else ofParts negative significand scale

/-- The number nearest to `± digits * 10 ^ exponent`. Far beyond the range of the format the answer
does not hang on the digits: `places` is a bound on their count. -/
def ofDecimal (negative : Bool) (digits places : Nat) (exponent : Int) : Binary64 :=
  if digits = 0 then zero negative
  else if 310 < exponent then .infinite negative
  else if exponent + places < -330 then zero negative
  else if 0 ≤ exponent then ofRatio negative (digits * Nat.pow 10 exponent.toNat) 1
  else ofRatio negative digits (Nat.pow 10 (-exponent).toNat)

/-- Whether a number is neither an infinity nor a NaN. -/
def isFinite : Binary64 → Bool
  | finite _ => true
  | _ => false

/-- The sign of a number. -/
def isNegative : Binary64 → Bool
  | nan => false
  | infinite negative => negative
  | finite x => x.negative

end Binary64

end RecordPrint
