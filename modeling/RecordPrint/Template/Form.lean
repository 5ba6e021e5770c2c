import RecordPrint.Number.Significant
import RecordPrint.Template.Argument
import RecordPrint.Text.Case

/-!
# Forms of arguments

The letter of a place says in which form an argument stands there: as it is displayed or shown, as a
character, as an integer to base ten, eight or sixteen, or as a number with a fraction. A frame then fills
the form up to the width of the place.
-/

namespace RecordPrint

namespace Template

inductive Form where
  | displayed
  | shown
  /-- As it is shown, with all that is not ASCII escaped. -/
  | escaped
  | character
  | integer (base : Nat) (capitals : Bool)
  | real (layout : RealLayout) (capitals : Bool)
  deriving DecidableEq

def Form.ofLetter? : CodePoint → Option Form
  | .char 's' => some displayed
  | .char 'r' => some shown
  | .char 'a' => some escaped
  | .char 'c' => some character
  | .char 'd' | .char 'i' | .char 'u' => some (integer 10 false)
  | .char 'o' => some (integer 8 false)
  | .char 'x' => some (integer 16 false)
  | .char 'X' => some (integer 16 true)
  | .char 'f' => some (real .fixed false)
  | .char 'F' => some (real .fixed true)
  | .char 'e' => some (real .scientific false)
  | .char 'E' => some (real .scientific true)
  | .char 'g' => some (real .general false)
  | .char 'G' => some (real .general true)
  | _ => none

/-- What a place makes of any argument. -/
structure Frame where
  left : Bool
  zeros : Bool
  /-- Whether integers have the mark of their base, and other numbers a point in any case. -/
  alternate : Bool
  /-- What stands in front of a number that is not negative. -/
  plus : Text
  width : Nat
  precision : Option Nat

/-- An argument in its form. -/
inductive Formed where
  | text (t : Text)
  /-- A number: its digits, and the mark of its base. -/
  | number (negative : Bool) (mark digits : Text)

/-- The greatest width and precision that there is room for. -/
def room : Nat := Nat.pow 2 28

/-- The digits of a natural number to a base. -/
def digitsTo (base n : Nat) : Text := Text.ofChars (Nat.toDigits base n)

def baseMark : (base : Nat) → Text
  | 8 => "0o"
  | 16 => "0x"
  | _ => []

def inCapitals (capitals : Bool) (t : Text) : Text := if capitals then t.capitals else t

namespace Frame

/-- A text cut down to the precision. -/
def cut (f : Frame) (t : Text) : Text := (f.precision.map t.take).getD t

/-- An argument as a character: a text of one, or the number of one. -/
def character (a : Argument) : Except TemplateFault CodePoint :=
  match a.worth, a.isText, a.displayed with
  | some (.whole n), _, _ =>
    if 0 ≤ n ∧ n < 0x110000 then .ok (.ofNat n.toNat) else .error .characterRange
  | none, true, [c] => .ok c
  | _, _, _ => .error .notCharacter

/-- The integer that an argument stands for. Only base ten takes a number with a fraction for one. -/
def integer (base : Nat) (letter : CodePoint) (a : Argument) : Except TemplateFault Int :=
  match a.worth with
  | some (.whole n) => .ok n
  | some amount => if base = 10 then amount.toInt else .error (.notNumber letter a.typeName)
  | none => .error (.notNumber letter a.typeName)

/-- The number that an argument stands for. -/
def real (a : Argument) : Except TemplateFault Binary64 :=
  match a.worth with
  | some amount => amount.toReal
  | none => .error (.notReal a.typeName)

/-- An argument in the form that a letter asks for. -/
def form (f : Frame) (letter : CodePoint) (a : Argument) : Form → Except TemplateFault Formed
  | .displayed => .ok (.text (f.cut a.displayed))
  | .shown => .ok (.text (f.cut a.shown))
  | .escaped =>
    .ok (.text (f.cut (a.shown.flatMap fun c => if c.toNat < 0x80 then [c] else c.numericEscape)))
  | .character => (character a).map fun c => .text [c]
  | .integer base capitals => do
    let n ← integer base letter a
    let places := f.precision.getD 0
    if room < places then throw .noRoom
    return .number (n < 0) (if f.alternate then inCapitals capitals (baseMark base) else [])
      (inCapitals capitals ((digitsTo base n.natAbs).padLeft (.char '0') places))
  | .real layout capitals => do
    let x ← real a
    let precision := f.precision.getD 6
    if room < precision ∧ (layout ≠ .general ∨ f.alternate) then throw .noRoom
    return .number x.isNegative [] (inCapitals capitals (x.layOut layout f.alternate precision))

/-- A text of at least the width. -/
def fill (f : Frame) (t : Text) : Text :=
  if f.left then t.padRight f.width else t.padLeft (.char ' ') f.width

/-- What a place makes of an argument: zeros come between the sign of a number and its digits. -/
def render (f : Frame) : Formed → Text
  | .text t => f.fill t
  | .number negative mark digits =>
    let start := (if negative then [.char '-'] else f.plus) ++ mark
    if f.zeros && !f.left then start ++ digits.padLeft (.char '0') (f.width - start.length)
    else f.fill (start ++ digits)

end Frame

end Template

end RecordPrint
