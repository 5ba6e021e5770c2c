import RecordPrint.Value
import RecordPrint.Schema.TypeExpr

/-!
# Shapes

A shape says what its records look like. It is declared with its bases; what it inherits is settled by
its lineage, the order in which attributes are looked for. A schema is the list of the shapes declared
so far, so a declaration only refers to earlier ones.
-/

namespace RecordPrint

inductive ShapeKind where
  /-- A data class: its fields are collected when it is declared. -/
  | data
  /-- A tuple with named items. -/
  | tuple
  /-- A dictionary with known keys. -/
  | dictionary
  /-- A class with annotated attributes. -/
  | plain
  | enumeration
  deriving DecidableEq

/-- What a shape can descend from. -/
inductive Ancestor where
  | shape (name : Text)
  | dict
  | list
  /-- The protocol of records that supply their own cells. -/
  | tabular
  deriving DecidableEq

structure FieldDecl where
  name : Text
  annotation : TypeExpr
  /-- The header that is attached to the declaration itself. -/
  tag : Option Text
  default? : Option Value

/-- The cells that records of a shape supply themselves. -/
structure TabularDecl where
  headers : Option (List Text)
  /-- The attributes whose values are the cells of a row. -/
  row : Option (List Text)

structure ShapeDecl where
  name : Text
  kind : ShapeKind
  bases : List Ancestor
  fields : List FieldDecl
  /-- The names of its computed attributes. -/
  computed : List Text
  /-- Whether its records export themselves. -/
  exports : Bool
  tabular : Option TabularDecl
  /-- The members of an enumeration by name. -/
  members : List (Text × Value) := []

/-- What the name of an attribute means for the records of a shape. -/
inductive ClassAttribute where
  /-- A default that shows where the record does not set the attribute. -/
  | value (v : Value)
  | computed
  /-- A positional item. -/
  | slot (index : Nat)
  /-- The method that exports a record. -/
  | exporter
  /-- The method that gives the header cells; none of the protocol's own gives nothing. -/
  | headers (texts : Option (List Text))
  /-- The method that gives the cells of a record. -/
  | row (attributes : Option (List Text))

/-- A field of a data class. One that only looks like a field keeps its name from being a field. -/
structure DataField where
  name : Text
  isPseudo : Bool
  tag : Option Text
  deriving DecidableEq

/-- A shape with all that it inherits. -/
structure Shape where
  name : Text
  kind : ShapeKind
  /-- The shape itself and its ancestors, in the order in which attributes are looked for. -/
  lineage : List Ancestor
  /-- The annotations of the shape itself; for dictionaries also those of its bases. -/
  annotations : List (Text × TypeExpr)
  /-- The attributes of the shape itself. -/
  attributes : List (Text × ClassAttribute)
  /-- The fields collected for a data class. -/
  dataFields : Option (List DataField)
  /-- The names of the items of a tuple. -/
  slots : Option (List Text)

/-- The fields of a data class, but not those that another shape inherits from one. -/
def Shape.ownDataFields (s : Shape) : Option (List DataField) := if s.kind = .data then s.dataFields else none

/-- The names of the items of a tuple, but not those that another shape inherits from one. -/
def Shape.ownSlots (s : Shape) : Option (List Text) := if s.kind = .tuple then s.slots else none

/-- The shapes declared so far, the earliest first. -/
abbrev Schema := List Shape

/-- The name of the method that exports a record. -/
def exporterName : Text := "to_dict"

/-- The name of the method that gives the header cells of a record's shape. -/
def headersName : Text := "tabular_headers"

/-- The name of the method that gives the cells of a record. -/
def rowName : Text := "tabular_row"

namespace Schema

/-- The shape of a name. -/
def shape? (schema : Schema) (name : Text) : Option Shape := List.find? (fun s => s.name = name) schema

/-- The lineage of a base. -/
def lineage (schema : Schema) : Ancestor → List Ancestor
  | .shape name => ((schema.shape? name).map Shape.lineage).getD [.shape name]
  | a => [a]

def shapes (schema : Schema) (ancestors : List Ancestor) : List Shape :=
  ancestors.filterMap fun
    | .shape name => schema.shape? name
    | _ => none

end Schema

/-- The first head that stands behind the head of no list. -/
def nextAncestor? (lists : List (List Ancestor)) : Option Ancestor :=
  (lists.filterMap List.head?).find? fun a => lists.all fun l => !l.tail.contains a

/-- Several lineages merged into one that keeps the order of each, taking at most `fuel` steps. -/
def mergeLineages : (fuel : Nat) → List (List Ancestor) → List Ancestor
  | 0, _ => []
  | fuel + 1, lists =>
    match nextAncestor? lists with
    | none => []
    | some a =>
      a :: mergeLineages fuel (lists.map fun l => if l.head? = some a then l.tail else l)

namespace ShapeDecl

/-- The lineage of a shape: itself, then the lineages of its bases merged so that the order of each and
the order of the bases are kept. Dictionaries do not keep theirs. -/
def lineage (schema : Schema) (d : ShapeDecl) : List Ancestor :=
  let behind :=
    if d.kind = .dictionary then [.dict]
    else
      let lists := d.bases.map (Schema.lineage schema) ++ [d.bases]
      mergeLineages lists.flatten.length lists
  .shape d.name :: behind

def annotations (schema : Schema) (d : ShapeDecl) : List (Text × TypeExpr) :=
  let own := d.fields.map fun f => (f.name, f.annotation)
  if d.kind = .dictionary then
    (Schema.shapes schema d.bases).foldl (fun acc s => putEntries acc s.annotations) [] |>
      (putEntries · own)
  else own

/-- The attributes that the fields of a shape give it. -/
def fieldAttributes (d : ShapeDecl) : List (Text × ClassAttribute) :=
  match d.kind with
  | .tuple => d.fields.mapIdx fun i f => (f.name, .slot i)
  | .dictionary => []
  | _ => d.fields.filterMap fun f => f.default?.map fun v => (f.name, .value v)

/-- The attributes of a shape itself; of two with one name the first one counts. -/
def attributes (d : ShapeDecl) : List (Text × ClassAttribute) :=
  let tabular (t : TabularDecl) :=
    (t.headers.map fun texts => (headersName, ClassAttribute.headers (some texts))).toList ++
      (t.row.map fun names => (rowName, ClassAttribute.row (some names))).toList
  d.computed.map (·, .computed) ++ (if d.exports then [(exporterName, .exporter)] else []) ++
    ((d.tabular.map tabular).getD []) ++ d.fieldAttributes ++ d.members.map fun m => (m.1, .value m.2)

/-- The fields of a data class: those of the data classes it descends from, the farthest first, and its
own. A name that is declared again keeps its place and takes the new declaration. Another shape has those
of the first data class of its lineage. -/
def dataFields (schema : Schema) (d : ShapeDecl) : Option (List DataField) :=
  let collect (acc : List (Text × DataField)) (fs : List DataField) :=
    putEntries acc (fs.map fun f => (f.name, f))
  if d.kind = .data then
    let inherited := (Schema.shapes schema (d.lineage schema).tail).reverse.filterMap Shape.dataFields
    let own := d.fields.map fun f => ⟨f.name, f.annotation.isPseudoField, f.tag⟩
    some ((collect (inherited.foldl collect []) own).map Prod.snd)
  else (Schema.shapes schema (d.lineage schema).tail).findSome? Shape.ownDataFields

/-- The names of the items of a tuple, declared here or by the first tuple of the lineage. -/
def slots (schema : Schema) (d : ShapeDecl) : Option (List Text) :=
  if d.kind = .tuple then some (d.fields.map FieldDecl.name)
  else (Schema.shapes schema (d.lineage schema).tail).findSome? Shape.ownSlots

/-- The shape that a declaration gives. -/
def toShape (schema : Schema) (d : ShapeDecl) : Shape where
  name := d.name
  kind := d.kind
  lineage := d.lineage schema
  annotations := d.annotations schema
  attributes := d.attributes
  dataFields := d.dataFields schema
  slots := d.slots schema

end ShapeDecl

namespace Schema

def declare (schema : Schema) (d : ShapeDecl) : Schema := schema ++ [d.toShape schema]

def ofDecls (ds : List ShapeDecl) : Schema := ds.foldl declare []

/-- The attributes of an ancestor. The protocol's own methods give nothing. -/
def attributes (schema : Schema) : Ancestor → List (Text × ClassAttribute)
  | .shape name => ((schema.shape? name).map Shape.attributes).getD []
  | .tabular => [(headersName, .headers none), (rowName, .row none)]
  | _ => []

/-- What a name means for the records of a shape. -/
def attribute? (schema : Schema) (shape name : Text) : Option ClassAttribute :=
  ((schema.lineage (.shape shape)).findSome? fun a => (schema.attributes a).lookup name)

/-- The name of the type of a type with nothing special about it. -/
def plainMetatype : Text := "type"

/-- The name of the type of a shape itself. -/
def metatype (schema : Schema) (shape : Text) : Text :=
  match (schema.shape? shape).map Shape.kind with
  | some .enumeration => "EnumType"
  | some .dictionary => "_TypedDictMeta"
  | _ => if (schema.lineage (.shape shape)).contains .tabular then "_ProtocolMeta" else plainMetatype

/-- Whether the records of a shape are also mappings. -/
def isMapping (schema : Schema) (shape : Text) : Bool :=
  (schema.lineage (.shape shape)).contains .dict

/-- Whether the records of a shape are also lists. -/
def isList (schema : Schema) (shape : Text) : Bool :=
  (schema.lineage (.shape shape)).contains .list

/-- What the records of a shape give as their header: nothing if they do not supply cells. -/
def headers? (schema : Schema) (shape : Text) : Option (Option (List Text)) :=
  match schema.attribute? shape headersName with
  | some (.headers texts) => some texts
  | _ => none

end Schema

end RecordPrint
