import RecordPrint.Record.Shown

/-!
# Plain values

The JSON form of a value that no unfolding has been applied to: of scalars, and of lists, tuples and
dictionaries of such values. The entries of a dictionary get names from their keys. Numbers that are not
finite, integers with too many digits and values of other types have no JSON form; the first one in the
order of the text decides which fault is told.
-/

namespace RecordPrint

namespace Json

/-- A code point inside a JSON string. -/
def escaped (c : CodePoint) : Text :=
  if c = .char '"' then "\\\""
  else if c = .char '\\' then "\\\\"
  else if c = .char '\n' then "\\n"
  else if c = .char '\r' then "\\r"
  else if c = .char '\t' then "\\t"
  else if c = .char '\x0c' then "\\f"
  else if c = .char '\x08' then "\\b"
  else if c.toNat < 0x20 then .char '\\' :: .char 'u' :: hexText 4 c.toNat
  else [c]

/-- A text as a JSON string. -/
def quote (t : Text) : Text := .char '"' :: t.flatMap escaped ++ [.char '"']

/-- A number that is finite as JSON text; the fault about any other one shows the value `v`. -/
def realText (σ : Store) (schema : Schema) (v : Value) (x : Binary64) : Except Fault Text :=
  if x.isFinite then .ok x.numeral
  else (v.shownWithin σ schema []).bind fun t => .error (.notFinite t)

/-- The content of the value `v` as JSON text. -/
def scalarText (σ : Store) (schema : Schema) (v : Value) : Scalar → Except Fault Text
  | .null => .ok "null"
  | .bool true => .ok "true"
  | .bool false => .ok "false"
  | .int n => limitedNumeral n
  | .float x => realText σ schema v x
  | .text t => .ok (quote t)

/-- The name that a key gives to an entry. -/
def nameOf (σ : Store) (schema : Schema) (key : Value) : Except Fault Text :=
  match key.content? with
  | some (.text t) => .ok t
  | some s => scalarText σ schema key s
  | none => .error (.notName (key.typeName σ))

/-- The parts of an object that has a JSON form. -/
inductive Parts where
  | items (vs : List Value)
  | entries (es : List (Value × Value))

/-- The parts of an object: of lists, tuples and dictionaries, and of records that are one of these. -/
def partsOf? (schema : Schema) : Node → Option Parts
  | .sequence .list vs | .sequence .tuple vs => some (.items vs)
  | .sequence _ _ => none
  | .mapping type es => if type = ("dict" : Text) then some (.entries es) else none
  | .instance i =>
    if ((schema.shape? i.shape).bind Shape.slots).isSome || schema.isList i.shape then some (.items i.items)
    else if schema.isMapping i.shape then some (.entries i.entries)
    else none

/-- The JSON form of a value inside the objects at the places `opened`, with the text of each leaf. -/
def plainWithin (σ : Store) (schema : Schema) (opened : List Nat) (v : Value) : Except Fault (Tree Text) :=
  match v.content?, v with
  | some s, _ => (scalarText σ schema v s).map .leaf
  | none, .object place =>
    if _inside : place < σ.size then
      match partsOf? schema σ[place] with
      | none => .error (.notEncodable (v.typeName σ))
      | some parts =>
        if _new : place ∈ opened then .error .circular
        else
          match parts with
          | .items vs => (vs.mapM fun w => plainWithin σ schema (place :: opened) w).map .array
          | .entries es =>
            (es.mapM fun (e : Value × Value) => do
              let name ← nameOf σ schema e.1
              return (name, ← plainWithin σ schema (place :: opened) e.2)).map .object
    else .error (.notEncodable (v.typeName σ))
  | none, _ => .error (.notEncodable (v.typeName σ))
termination_by unopened σ opened
decreasing_by all_goals exact unopened_cons_lt _inside _new

/-- The JSON form of a value, with the text of each leaf. -/
def plain (σ : Store) (schema : Schema) (v : Value) : Except Fault (Tree Text) :=
  plainWithin σ schema [] v

end Json

end RecordPrint
