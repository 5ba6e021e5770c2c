import RecordPrint.Text.Digit

/-!
# Decimal numerals of integers

The canonical numeral of an integer has a minus sign if it is negative and no leading zeros. It is
written in one go, or in blocks of five hundred digits; both ways give the same text. Where only
numerals of a limited length are converted, in either direction, the limit is 4300 digits.
-/

namespace RecordPrint

namespace Numeral

/-- The longest numeral that is converted where the length is limited. -/
def digitLimit : Nat := 4300

def blockDigits : Nat := 500

/-- The numeral of a natural number. -/
def ofNat (n : Nat) : Text := Text.ofChars (Nat.toDigits 10 n)

/-- A minus sign for a negative number, nothing otherwise. -/
def sign (n : Int) : Text := if n < 0 then [.char '-'] else []

def ofInt (n : Int) : Text := sign n ++ ofNat n.natAbs

/-- The numeral of a natural number with zeros in front up to a length of at least `width`. -/
def padded (width n : Nat) : Text := (ofNat n).padLeft (.char '0') width

/-- The blocks of five hundred digits of a natural number, the highest first; zero has none. -/
def blocks (n : Nat) : List Nat :=
  if _zero : n = 0 then [] else blocks (n / Nat.pow 10 blockDigits) ++ [n % Nat.pow 10 blockDigits]
termination_by n
decreasing_by exact Nat.div_lt_self (Nat.pos_of_ne_zero _zero) (by decide +kernel)

/-- The numeral of an integer, written block by block. -/
def inBlocks (n : Int) : Text :=
  match blocks n.natAbs with
  | [] => []
  | first :: rest => sign n ++ ofNat first ++ rest.flatMap (padded blockDigits)

/-- The numeral of an integer unless it has more digits than the limit. -/
def limited? (n : Int) : Option Text :=
  if (ofNat n.natAbs).length ≤ digitLimit then some (ofInt n) else none

/-- The numeral of an integer of any size: in one go up to the limit, in blocks beyond it. -/
def whole (n : Int) : Text := (limited? n).getD (inBlocks n)

/-- The value of the decimal digits of a text, read behind the value `high`. -/
def valueBehind (high : Nat) : Text → Nat
  | [] => high
  | c :: t => valueBehind (10 * high + (c.decimal?.getD 0)) t

/-- The value of a text of decimal digits. -/
def value (t : Text) : Nat := valueBehind 0 t

/-- Why a text cannot be read as an integer. -/
inductive ReadError where
  /-- The text is no numeral. -/
  | malformed (t : Text)
  /-- The numeral has too many digits. -/
  | tooLong (digits : Nat)
  deriving DecidableEq

/-- Reads a text of decimal digits, with any leading zeros. The length of the digits at the start is
looked at first. -/
def read (t : Text) : Except ReadError Nat :=
  let digits := t.takeWhile (·.decimal?.isSome)
  if digitLimit < digits.length then .error (.tooLong digits.length)
  else if digits = t ∧ t ≠ [] then .ok (value t)
  else .error (.malformed t)

end Numeral

end RecordPrint
