import RecordPrint.Number.Shortest

/-!
# Numerals of a given precision

The exact value of a finite number, rounded to a number of places behind the point or to a number of
significant digits, a half to the even neighbour. `Finite64.twoPlaces` is the numeral with exactly two
places, with the sign of the number even where all digits are zero; `Finite64.layOut` puts any digits
into a numeral without a sign.
-/

namespace RecordPrint

/-- How the digits of a number are laid out. The precision counts the places behind the point; in the
general layout it counts the significant digits. -/
inductive RealLayout where
  /-- All digits without an exponent. -/
  | fixed
  /-- One digit before the point, and an exponent. -/
  | scientific
  /-- An exponent only if it is below -4 or not below the precision. -/
  | general
  deriving DecidableEq

/-- Digits before and behind a point. The point is left out if nothing is behind it, unless `point`. -/
def withPoint (point : Bool) (high low : Text) : Text :=
  if low = [] && !point then high else high ++ .char '.' :: low

/-- The digits `ds` with the first one before the point, and an exponent. -/
def withExponent (point : Bool) (ds : Text) (lead : Int) : Text :=
  withPoint point (ds.take 1) (ds.drop 1) ++ exponentText lead

/-- The digits `ds`, of which the first stands for a multiple of `10 ^ lead`, written out. -/
def writtenOut (point : Bool) (ds : Text) (lead : Int) : Text :=
  if lead < 0 then withPoint point "0" (List.replicate ((-lead).toNat - 1) (.char '0') ++ ds)
  else
    let high := ds.take (lead.toNat + 1)
    withPoint point (high ++ List.replicate (lead.toNat + 1 - high.length) (.char '0'))
      (ds.drop (lead.toNat + 1))

namespace Finite64

/-- The magnitude of a number in units of `10 ^ -places`, a half to even. -/
def scaled (x : Finite64) (places : Nat) : Nat := roundHalfEven (x.units * Nat.pow 10 places) Binary64.unitsPerOne

/-- The magnitude of a number in hundredths, a half to even. -/
def hundredths (x : Finite64) : Nat := x.scaled 2

/-- A number with two decimal places. -/
def twoPlaces (x : Finite64) : Text :=
  (if x.negative then [.char '-'] else []) ++ Numeral.ofNat (x.hundredths / 100) ++
    .char '.' :: Numeral.padded 2 (x.hundredths % 100)

/-- No number has more significant digits than this. -/
def mostDigits : Nat := 767

/-- A number rounded to `count` significant digits: these as a natural number, and the exponent of the
first one. -/
def significant (x : Finite64) (count : Nat) : Nat × Int :=
  if x.units = 0 then (0, 0)
  else
    let lead := leadExponent x.units
    let shift := (count : Int) - 1 - lead
    let digits := roundHalfEven (x.units * Nat.pow 10 shift.toNat) (Binary64.unitsPerOne * Nat.pow 10 (-shift).toNat)
    if digits = Nat.pow 10 count then (Nat.pow 10 (count - 1), lead + 1) else (digits, lead)

/-- The numeral of the magnitude of a number, `places` of its digits behind the point. -/
def fixed (x : Finite64) (point : Bool) (places : Nat) : Text :=
  let digits := Numeral.padded (places + 1) (x.scaled places)
  withPoint point (digits.take (digits.length - places)) (digits.drop (digits.length - places))

/-- The numeral of the magnitude of a number with an exponent, `places` of its digits behind the point. -/
def scientific (x : Finite64) (point : Bool) (places : Nat) : Text :=
  let (digits, lead) := x.significant (places + 1)
  withExponent point (Numeral.padded (places + 1) digits) lead

/-- The numeral of the magnitude of a number with `count` significant digits. Zeros at the end are left
out unless `point`; so no more digits are looked at then than a number can have. -/
def general (x : Finite64) (point : Bool) (count : Nat) : Text :=
  let kept := if point then count else min count mostDigits
  let (digits, lead) := x.significant kept
  let all := Numeral.padded kept digits
  let ds := if point then all
    else all.take 1 ++ ((all.drop 1).reverse.dropWhile (· = .char '0')).reverse
  if -4 ≤ lead ∧ lead < count then writtenOut point ds lead else withExponent point ds lead

/-- The numeral of the magnitude of a number; with `point` it has a point and all its zeros in any case. -/
def layOut (x : Finite64) (layout : RealLayout) (point : Bool) (precision : Nat) : Text :=
  match layout with
  | .fixed => x.fixed point precision
  | .scientific => x.scientific point precision
  | .general => x.general point (max precision 1)

end Finite64

namespace Binary64

/-- The numeral of the magnitude of a number, or the name of one that is not finite. -/
def layOut (x : Binary64) (layout : RealLayout) (point : Bool) (precision : Nat) : Text :=
  match x with
  | nan => "nan"
  | infinite _ => "inf"
  | finite x => x.layOut layout point precision

end Binary64

end RecordPrint
