import RecordPrint.Number.Binary64
import RecordPrint.Number.Numeral

/-!
# Shortest numerals

The shortest decimal numeral that reads back as a given finite number. On the grid of decimals with one
digit, two digits and so on up to seventeen, the two neighbours of the number are tried: the first grid
on which one of them reads back wins, of two such neighbours the nearer one, and of two equally near
ones the even one.
-/

namespace RecordPrint

namespace Finite64

/-- The decimals that read back as a number are those between `low` and `high`, counted in quarter units
of `2 ^ -1074`; the ends are among them if `closed`. -/
structure Basin where
  low : Nat
  high : Nat
  closed : Bool

/-- The basin of a number: half the distance to either neighbour. The lower neighbour of a power of two
is only half as far away. -/
def basin (x : Finite64) : Basin where
  low := 4 * x.units - (if x.significand = Nat.pow 2 52 ∧ 0 < x.scale then Nat.pow 2 x.scale else 2 * Nat.pow 2 x.scale)
  high := 4 * x.units + 2 * Nat.pow 2 x.scale
  closed := x.significand % 2 = 0

/-- Whether `num / den` quarter units lie in the basin. -/
def Basin.contains (b : Basin) (num den : Nat) : Bool :=
  if b.closed then b.low * den ≤ num && num ≤ b.high * den else b.low * den < num && num < b.high * den

/-- The exponent of the first digit of a number that is not zero and smaller than one: the least `j`
from `start` on with `10 ^ j * units ≥ unitsPerOne`, negated, looking at `fuel` candidates. -/
def smallExponent (units : Nat) : (fuel start : Nat) → Int
  | 0, start => -(start : Int)
  | fuel + 1, start =>
    if Binary64.unitsPerOne ≤ units * Nat.pow 10 start then -(start : Int) else smallExponent units fuel (start + 1)

/-- The exponent of the first digit of a number that is not zero. -/
def leadExponent (units : Nat) : Int :=
  if Binary64.unitsPerOne ≤ units then ((Numeral.ofNat (units / Binary64.unitsPerOne)).length : Int) - 1
  else smallExponent units 330 1

/-- The better of the two neighbours of a number on the grid of multiples of `10 ^ exponent`, if one of
them reads back as the number. -/
def onGrid? (x : Finite64) (exponent : Int) : Option Nat :=
  let up := Nat.pow 10 exponent.toNat
  let down := Nat.pow 10 (-exponent).toNat
  let cell := up * Binary64.unitsPerOne
  let below := x.units * down / cell
  let inBasin (d : Nat) := x.basin.contains (4 * d * cell) down
  let distance (d : Nat) := (d * cell - x.units * down) + (x.units * down - d * cell)
  match inBasin below, inBasin (below + 1) with
  | false, false => none
  | true, false => some below
  | false, true => some (below + 1)
  | true, true =>
    if distance below < distance (below + 1) then some below
    else if distance (below + 1) < distance below then some (below + 1)
    else some (if below % 2 = 0 then below else below + 1)

/-- The first grid from `places` digits on that holds a decimal reading back as the number, looking at
`fuel` grids: the multiple and the exponent of the grid. -/
def firstGrid (x : Finite64) (lead : Int) : (fuel places : Nat) → Nat × Int
  | 0, places => (x.units, lead - places)
  | fuel + 1, places =>
    match x.onGrid? (lead + 1 - places) with
    | some d => (d, lead + 1 - places)
    | none => firstGrid x lead fuel (places + 1)

/-- The shortest decimal that reads back as the number: a numeral and a power of ten. -/
def shortest (x : Finite64) : Nat × Int :=
  if x.units = 0 then (0, 0) else firstGrid x (leadExponent x.units) 17 1

end Finite64

/-- The numeral of a natural number without the zeros at its end. -/
def significantDigits (n : Nat) : Text :=
  ((Numeral.ofNat n).reverse.dropWhile (· = .char '0')).reverse

/-- An exponent with its sign and at least two digits. -/
def exponentText (e : Int) : Text :=
  .char 'e' :: (if e < 0 then .char '-' else .char '+') :: Numeral.padded 2 e.natAbs

/-- The digits `ds`, of which the first stands for a multiple of `10 ^ lead`, as a numeral with a point
or an exponent: exponents from -4 to 15 are written out. -/
def layOut (ds : Text) (lead : Int) : Text :=
  if -4 ≤ lead ∧ lead < 16 then
    if lead < 0 then
      .char '0' :: .char '.' :: List.replicate ((-lead).toNat - 1) (.char '0') ++ ds
    else
      let whole := ds.take (lead.toNat + 1)
      let fraction := ds.drop (lead.toNat + 1)
      whole ++ List.replicate (lead.toNat + 1 - whole.length) (.char '0') ++
        .char '.' :: (if fraction = [] then [.char '0'] else fraction)
  else
    match ds with
    | [] => exponentText lead
    | [d] => d :: exponentText lead
    | d :: rest => d :: .char '.' :: rest ++ exponentText lead

namespace Finite64

/-- The shortest numeral of a number, with a point or an exponent in it. -/
def numeral (x : Finite64) : Text :=
  (if x.negative then [.char '-'] else []) ++
    match x.shortest with
    | (0, _) => "0.0"
    | (d, e) => layOut (significantDigits d) (e + (Numeral.ofNat d).length - 1)

end Finite64

namespace Binary64

/-- The shortest numeral of a number, or the name of one that is not finite. -/
def numeral : Binary64 → Text
  | nan => "nan"
  | infinite false => "inf"
  | infinite true => "-inf"
  | finite x => x.numeral

end Binary64

end RecordPrint
