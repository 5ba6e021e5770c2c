import RecordPrint.Text.Quoted
import RecordPrint.Number.Numeral

/-!
# Faults of records

What can go wrong while a record is read, brought into normal form or written, by cause, with the
description of each cause.
-/

namespace RecordPrint

/-- The kinds of complaint that are raised by what a record, a value or a time zone answers for itself. -/
inductive Complaint where
  | value
  | key
  | type
  | attribute
  /-- Some other kind, by its name. -/
  | other (kind : Text)
  deriving DecidableEq

/-- The causes for which a record cannot be read or written. -/
inductive Fault where
  /-- A record of type `type` has no attribute `name`. -/
  | noAttribute (type name : Text)
  /-- A computed attribute, an export, a time zone or a format of its own raised a complaint. -/
  | raised (complaint : Complaint) (note : Text)
  /-- An object is reachable from itself. -/
  | circular
  /-- Values of a type have no JSON form. -/
  | notEncodable (type : Text)
  /-- A number that is not finite has no JSON form. -/
  | notFinite (numeral : Text)
  /-- A value of type `type` stands where the name of a JSON entry is needed. -/
  | notName (type : Text)
  /-- An integer has more digits than are converted. -/
  | tooManyDigits
  /-- Something of type `type` stands where a list of cells is needed. -/
  | notIterable (type : Text)
  /-- Something of type `type` stands where a method is needed. -/
  | notCallable (type : Text)
  /-- A row of cells does not have the length of its header. -/
  | rowLength (shorter : Bool)
  /-- A number that is a member of an enumeration and goes by its name has no fixed-point form. -/
  | noFixedPoint
  /-- A time zone reports an offset of a day or more. -/
  | offsetRange
  deriving DecidableEq

/-- What is answered with a fault in it is compared like everything else that values are made of. -/
instance decidableEqAnswer {ε α : Type} [DecidableEq ε] [DecidableEq α] : DecidableEq (Except ε α)
  | .ok a, .ok b => decidable_of_iff (a = b) (by simp)
  | .error a, .error b => decidable_of_iff (a = b) (by simp)
  | .ok _, .error _ | .error _, .ok _ => isFalse (by simp)

/-- The description of integers with too many digits, with a remark about the digits of the one at
hand. -/
def digitLimitMessage (remark : Text) : Text :=
  "Exceeds the limit (4300 digits) for integer string conversion" ++ remark ++
    "; use sys.set_int_max_str_digits() to increase the limit"

namespace Fault

def message : Fault → Text
  | noAttribute type name => "'" ++ type ++ "' object has no attribute '" ++ name ++ "'"
  | raised .key note => note.quoted
  | raised _ note => note
  | circular => "Circular reference detected"
  | notEncodable type => "Object of type " ++ type ++ " is not JSON serializable"
  | notFinite numeral => "Out of range float values are not JSON compliant: " ++ numeral
  | notName type => "keys must be str, int, float, bool or None, not " ++ type
  | tooManyDigits => digitLimitMessage []
  | notIterable type => "'" ++ type ++ "' object is not iterable"
  | notCallable type => "'" ++ type ++ "' object is not callable"
  | rowLength true => "zip() argument 2 is shorter than argument 1"
  | rowLength false => "zip() argument 2 is longer than argument 1"
  | noFixedPoint => "Unknown format code 'f' for object of type 'str'"
  | offsetRange =>
    "offset must be a timedelta strictly between -timedelta(hours=24) and timedelta(hours=24)."

/-- Whether a fault says that an attribute is not there, so that a reader with a default goes on. -/
def isMissingAttribute : Fault → Bool
  | noAttribute _ _ | raised .attribute _ => true
  | _ => false

end Fault

/-- The description of a text that is no numeral of an integer; only its beginning is quoted. -/
def malformedNumeralMessage (t : Text) : Text :=
  "invalid literal for int() with base 10: " ++ t.quoted.take 200

/-- The description of an unreadable numeral. -/
def Numeral.ReadError.message : Numeral.ReadError → Text
  | .malformed t => malformedNumeralMessage t
  | .tooLong digits => digitLimitMessage (": value has " ++ Numeral.ofNat digits ++ " digits")

end RecordPrint
