import RecordPrint.Schema.Shape
import RecordPrint.Record.Key
import RecordPrint.Record.Method

/-!
# Attributes and fields of records

How the value of a named field is read. Mappings are asked by key, everything else by attribute. A
computed attribute comes before what is set on the record, and that before the defaults of the shape.
-/

namespace RecordPrint

namespace Path

/-- The last component of a path. -/
def name (p : Path) : Text := p.components.getLast?.getD []

/-- The last component split in front of its last point, unless that is at one of its ends. -/
def nameParts (p : Path) : Text × Text :=
  let suffix := (p.name.reverse.takeWhile (· ≠ .char '.')).reverse
  let stem := p.name.take (p.name.length - suffix.length - 1)
  if suffix = [] ∨ stem = [] then (p.name, []) else (stem, .char '.' :: suffix)

/-- The separator at the end of what a path starts at, and what is in front of it. On slash paths all
of it counts as the separator. -/
def anchorParts (p : Path) : Text × Text :=
  if p.separator = .char '/' then ([], p.anchor)
  else if p.anchor.getLast? = some p.separator then (p.anchor.dropLast, [p.separator])
  else (p.anchor, [])

end Path

namespace Value

def scalarAttribute? (s : Scalar) (name : Text) : Option Value :=
  let integer (n : Int) : Option Value :=
    if name = ("real" : Text) ∨ name = ("numerator" : Text) then some (int n)
    else if name = ("imag" : Text) then some (int 0)
    else if name = ("denominator" : Text) then some (int 1)
    else none
  match s with
  | .bool b => integer (if b then 1 else 0)
  | .int n => integer n
  | .float x =>
    if name = ("real" : Text) then some (scalar (.float x))
    else if name = ("imag" : Text) then some (scalar (.float (Binary64.zero false)))
    else none
  | _ => none

def dateAttribute? (d : Date) (name : Text) : Option Value :=
  ([(("year" : Text), d.year), ("month", d.month), ("day", d.day)].lookup name).map fun n => int n

/-- The attributes of a time of day. -/
def clockAttribute? (c : Clock) (zone : Option Zone) (name : Text) : Option Value :=
  if name = ("tzinfo" : Text) then some ((zone.map fun _ => foreign "timezone").getD null)
  else
    ([(("hour" : Text), c.hour), ("minute", c.minute), ("second", c.second),
      ("microsecond", c.micro), ("fold", 0)].lookup name).map fun n => int n

def timestampAttribute? (t : Timestamp) (name : Text) : Option Value :=
  (dateAttribute? t.date name).or (clockAttribute? t.clock t.zone name)

def pathAttribute? (p : Path) (name : Text) : Option Value :=
  ([(("name" : Text), p.name), ("stem", p.nameParts.1), ("suffix", p.nameParts.2),
    ("anchor", p.anchor), ("drive", p.anchorParts.1), ("root", p.anchorParts.2)].lookup name).map text

end Value

/-- What an attribute gives on the shape itself: its default, or else a value that describes it. -/
def ClassAttribute.ofShape : ClassAttribute → Value
  | value v => v
  | computed => .foreign "property"
  | slot _ => .foreign "_tuplegetter"
  | exporter | row _ => .foreign "function"
  | headers _ => .foreign "method"

/-- The operations that the records of a shape have because they are also tuples or lists. -/
def Schema.operation? (schema : Schema) (shape name : Text) : Option Value :=
  if ((schema.shape? shape).bind Shape.slots).isSome then
    if name = ("_fields" : Text) then some (.foreign (SequenceKind.typeName .tuple))
    else if [("_asdict" : Text), "_make", "_replace"].contains name then some (.foreign "method")
    else Value.operation? (SequenceKind.typeName .tuple) name
  else if schema.isList shape then Value.operation? (SequenceKind.typeName .list) name
  else none

/-- An attribute of a record of a declared shape; none if it is neither set nor known to the shape. -/
def Instance.attribute? (schema : Schema) (i : Instance) (name : Text) :
    Except Fault (Option Value) :=
  match schema.attribute? i.shape name with
  | some .computed =>
    match i.computed.lookup name with
    | some outcome => outcome.map some
    | none => .ok none
  | some (.slot index) => .ok i.items[index]?
  | declared =>
    match i.attributes.lookup name with
    | some v => .ok (some v)
    | none =>
      match declared with
      | none => .ok (schema.operation? i.shape name)
      | some (.value v) => .ok (some v)
      | some _ => .ok (some (.foreign "method"))

namespace Value

/-- The name under which every value has its type. -/
def typeAttribute : Text := "__class__"

/-- The name of the type of the type of a value. -/
def metatype (σ : Store) (schema : Schema) : Value → Text
  | member enumeration _ _ _ => schema.metatype enumeration
  | object place =>
    match σ[place]? with
    | some (.instance i) => schema.metatype i.shape
    | _ => Schema.plainMetatype
  | _ => Schema.plainMetatype

/-- An attribute of a value; none if the value has no such attribute. -/
def attribute? (σ : Store) (schema : Schema) (v : Value) (name : Text) :
    Except Fault (Option Value) :=
  let orOperation (found : Option Value) : Except Fault (Option Value) :=
    .ok (found.or (operation? (v.typeName σ) name))
  if name = typeAttribute then .ok (some (.foreign (v.metatype σ schema)))
  else match v with
  | scalar s | refined s _ _ => orOperation (scalarAttribute? s name)
  | timestamp t => orOperation (timestampAttribute? t name)
  | date d => orOperation (dateAttribute? d name)
  | clock t => orOperation (clockAttribute? t.clock t.zone name)
  | path p => orOperation (pathAttribute? p name)
  | member enumeration memberName _ content =>
    if name = ("name" : Text) then .ok (some (text memberName))
    else if name = ("value" : Text) then .ok (some content)
    else if let some (.value other) := schema.attribute? enumeration name then .ok (some other)
    else match v.content?, v.moment? with
      | some s, _ => .ok ((scalarAttribute? s name).or (operation? s.typeName name))
      | none, some t => .ok ((timestampAttribute? t name).or (operation? ((timestamp t).typeName σ) name))
      | none, none => .ok none
  | ref target => .ok (if name = ("target" : Text) then some target else none)
  | object place =>
    match σ[place]? with
    | some (.instance i) => i.attribute? schema name
    | _ => orOperation none
  | shape s _ => .ok ((schema.attribute? s name).map ClassAttribute.ofShape)
  | missing | foreign _ => orOperation none

/-- An attribute that has to be there. -/
def getAttribute (σ : Store) (schema : Schema) (v : Value) (name : Text) : Except Fault Value := do
  match ← v.attribute? σ schema name with
  | some found => return found
  | none => throw (.noAttribute (v.typeName σ) name)

/-- The entries of a mapping; none for values that are no mappings. -/
def entries? (σ : Store) (schema : Schema) : Value → Option (List (Value × Value))
  | object place =>
    match σ[place]? with
    | some (.mapping _ entries) => some entries
    | some (.instance i) => if schema.isMapping i.shape then some i.entries else none
    | _ => none
  | _ => none

def underKey? (name : Text) (entries : List (Value × Value)) : Option Value :=
  (entries.find? fun e => e.1.content? = some (.text name)).map Prod.snd

/-- The value of a field: `missing` if the record has no such field. -/
def field (σ : Store) (schema : Schema) (v : Value) (name : Text) : Except Fault Value :=
  match v.entries? σ schema with
  | some entries => .ok ((underKey? name entries).getD missing)
  | none =>
    match v.attribute? σ schema name with
    | .ok found => .ok (found.getD missing)
    | .error f => if f.isMissingAttribute then .ok missing else .error f

/-- What calling the value of an attribute as a method fails with. -/
def refuseCall (σ : Store) (v : Value) : Fault := .notCallable (v.typeName σ)

/-- The cells that a record supplies itself. -/
def suppliedRow (σ : Store) (schema : Schema) (v : Value) : Except Fault (List Value) := do
  match v with
  | object place =>
    match σ[place]? with
    | some (.instance i) =>
      match schema.attribute? i.shape rowName, i.attributes.lookup rowName with
      | some (.row (some names)), none => names.mapM (v.getAttribute σ schema)
      | some (.row none), none => throw (.notIterable Scalar.null.typeName)
      | _, _ => throw (refuseCall σ (← v.getAttribute σ schema rowName))
    | _ => throw (.noAttribute (v.typeName σ) rowName)
  | _ => throw (.noAttribute (v.typeName σ) rowName)

def recordType (σ : Store) : Value → TypeExpr
  | member enumeration _ _ _ => .shape enumeration
  | ref _ => .reference
  | object place =>
    match σ[place]? with
    | some (.instance i) => .shape i.shape
    | some node => .builtin node.typeName
    | none => .builtin "object"
  | v => .builtin (v.typeName σ)

end Value

end RecordPrint
