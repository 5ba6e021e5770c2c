import RecordPrint.Json.Reader
import RecordPrint.Text.Lines

/-!
# Reading records

Records come as one JSON array of objects, or as JSON objects on lines of their own, with blank lines
anywhere. A text whose first character is an opening bracket is an array; a blank text holds no records.
-/

namespace RecordPrint

/-- A record as it is read. -/
abbrev JsonRecord := List (Text × Json)

/-- Why a text does not hold records. -/
inductive InputFault where
  /-- A text that is not read as JSON. -/
  | json (t : Text) (f : JsonFault)
  /-- A record, counted from one, that is no object but a value of type `type`. -/
  | notObject (index : Nat) (type : Text)
  deriving DecidableEq

/-- The description of why a text does not hold records. -/
def InputFault.message : InputFault → Text
  | json t f => f.message t
  | notObject index type =>
    "record " ++ Numeral.ofNat index ++ " is a JSON " ++ type ++ ", expected an object"

/-- The ways in which records are laid out in a text. -/
inductive InputLayout where
  | array
  | lines
  deriving DecidableEq

namespace Json

/-- The name of the type of what a JSON text denotes. -/
def typeName : Json → Text
  | .leaf s => s.typeName
  | .array _ => "list"
  | .object _ => "dict"

/-- Reads a text that holds one value, keeping the text with the fault. -/
def readText (t : Text) : Except InputFault Json := (read t).mapError (InputFault.json t)

/-- The layout of a text without blanks around it. -/
def inputLayout (t : Text) : InputLayout :=
  if t.head? = some (.char '[') then .array else .lines

/-- The values that a text without blanks around it holds. -/
def readItems? (t : Text) : Except InputFault (List Json) :=
  match inputLayout t with
  | .array =>
    (readText t).map fun
      | .array items => items
      | v => [v]
  | .lines => (t.lines.filter fun line => !line.isBlank).mapM readText

/-- The objects among values of which the first one has the number `index`; all have to be objects. -/
def objectsFrom (index : Nat) : List Json → Except InputFault (List JsonRecord)
  | [] => .ok []
  | .object entries :: vs => (objectsFrom (index + 1) vs).map (entries :: ·)
  | v :: _ => .error (.notObject index (typeName v))

/-- The records that a text holds. -/
def readRecords (t : Text) : Except InputFault (List JsonRecord) :=
  if t.trim = [] then .ok [] else (readItems? t.trim).bind (objectsFrom 1)

end Json

end RecordPrint
