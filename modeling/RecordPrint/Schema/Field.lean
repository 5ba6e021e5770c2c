import RecordPrint.Schema.Shape

/-!
# Fields

The fields of a record type, in the order of their declaration, each with the name under which the
record keeps it and perhaps a label for the header. The annotations of a shape and its ancestors are
resolved together: if one of them cannot be, all stay as they were written.
-/

namespace RecordPrint

/-- A field of a record and the label under which it is shown. -/
structure Field where
  name : Text
  label : Option Text
  deriving DecidableEq

/-- The header of a field: its label, or its name if the label is missing or empty. -/
def Field.header (f : Field) : Text :=
  match f.label with
  | none | some [] => f.name
  | some label => label

/-- A field that is shown under its name. -/
def Field.unlabelled (name : Text) : Field := ⟨name, none⟩

namespace Schema

/-- The annotations of a shape, each with whether top-only expressions may be quoted in it. -/
def openAnnotations (s : Shape) : List (Text × Bool × TypeExpr) :=
  s.annotations.map fun a => (a.1, s.kind ≠ .tuple && s.kind ≠ .dictionary, a.2)

/-- The annotations of a shape and its ancestors as they were written, the farthest ancestor first. -/
def writtenHints (schema : Schema) (shape : Text) : List (Text × Bool × TypeExpr) :=
  (schema.shapes (schema.lineage (.shape shape))).reverse.foldl
    (fun acc s => putEntries acc (openAnnotations s)) []

/-- Whether all annotations of a shape and its ancestors can be resolved. -/
def resolvable (schema : Schema) (shape : Text) : Bool :=
  (schema.shapes (schema.lineage (.shape shape))).all fun s =>
    (openAnnotations s).all fun a => (a.2.2.resolve? a.2.1).isSome

/-- The annotations of a shape and its ancestors: resolved if all of them can be, otherwise as they were
written. -/
def hints (schema : Schema) (shape : Text) : List (Text × TypeExpr) :=
  (schema.writtenHints shape).map fun a =>
    (a.1, if schema.resolvable shape then (a.2.2.resolve? a.2.1).getD a.2.2 else a.2.2)

/-- The label of a field: what is attached to its declaration, or else what its annotation says. -/
def label (schema : Schema) (shape name : Text) (tag : Option Text) : Option Text :=
  match tag with
  | none | some [] => ((schema.hints shape).lookup name).bind TypeExpr.header?
  | some tag => some tag

/-- The names of the declared fields of a shape, with the labels attached to the declarations. -/
def declared (schema : Schema) (shape : Text) : List (Text × Option Text) :=
  match schema.shape? shape with
  | none => []
  | some s =>
    match s.dataFields, s.slots with
    | some fields, _ => (fields.filter fun f => !f.isPseudo).map fun f => (f.name, f.tag)
    | none, some names => names.map (·, none)
    | none, none =>
      ((schema.hints shape).filter fun h => !h.2.isClassVar).map fun h => (h.1, none)

def fields (schema : Schema) (shape : Text) : List Field :=
  (schema.declared shape).map fun d => ⟨d.1, schema.label shape d.1 d.2⟩

/-- The fields of a record type, behind one level of indirection. Types that declare none have none. -/
def describe (schema : Schema) (t : TypeExpr) : List Field :=
  match t.deref with
  | .shape name => schema.fields name
  | .ref _ | .reference => [.unlabelled "target"]
  | _ => []

/-- Whether the records of a type supply their own cells. -/
def isTabular (schema : Schema) : TypeExpr → Bool
  | .shape name => (schema.headers? name).isSome
  | _ => false

end Schema

end RecordPrint
