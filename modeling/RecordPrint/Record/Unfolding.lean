import RecordPrint.Schema.Field
import RecordPrint.Record.Shown

/-!
# Unfolding

What an object turns into in one step on the way to normal form: named entries, items, another value in
its place, cells that it supplies itself, or nothing that can be unfolded further.
-/

namespace RecordPrint

/-- One step of unfolding an object. -/
inductive Unfolding where
  /-- Entries, each of which may turn out to be unreadable when its turn comes. -/
  | entries (es : List (Except Fault (Text × Value)))
  | items (vs : List Value)
  /-- Another value that stands for the object. -/
  | standIn (v : Value)
  /-- Cells that are taken as they are. -/
  | cells (cs : List (Text × Value))
  | atomic

namespace Instance

/-- What a record exports, if it has an exporter that can be called. -/
def export? (schema : Schema) (i : Instance) : Except Fault (Option Value) :=
  match schema.attribute? i.shape exporterName, i.attributes.lookup exporterName with
  | some .exporter, none => i.exported.map some
  | some .computed, _ =>
    match i.attribute? schema exporterName with
    | .error f => if f.isMissingAttribute then .ok none else .error f
    | .ok _ => .ok none
  | _, _ => .ok none

end Instance

/-- A header and the cells of a row as entries; both have to be of one length. -/
def zipCells (headers : List Text) (row : List Value) : Except Fault (List (Text × Value)) :=
  if row.length = headers.length then .ok (headers.zip row)
  else .error (.rowLength (row.length < headers.length))

namespace Value

/-- An entry of a mapping on its way to an object: the key is displayed. -/
def displayedEntry (σ : Store) (schema : Schema) (e : Value × Value) : Except Fault (Text × Value) :=
  (e.1.display σ schema).map (·, e.2)

/-- A declared field on its way to an object: an unset one becomes null. -/
def declaredEntry (σ : Store) (schema : Schema) (v : Value) (name : Text) :
    Except Fault (Text × Value) :=
  (v.field σ schema name).map fun found => (name, if found = missing then null else found)

/-- The unfolding of a record that neither exports itself nor is a container. -/
def unfoldDeclared (σ : Store) (schema : Schema) (v : Value) (i : Instance) :
    Except Fault Unfolding :=
  match schema.headers? i.shape with
  | some none => .error (.notIterable Scalar.null.typeName)
  | some (some headers) => do return .cells (← zipCells headers (← v.suppliedRow σ schema))
  | none =>
    match schema.fields i.shape with
    | [] => .ok .atomic
    | fields => .ok (.entries (fields.map fun f => v.declaredEntry σ schema f.name))

/-- The unfolding of a record of a declared shape. -/
def unfoldInstance (σ : Store) (schema : Schema) (v : Value) (i : Instance) :
    Except Fault Unfolding :=
  match (schema.shape? i.shape).bind Shape.dataFields, (schema.shape? i.shape).bind Shape.slots with
  | some fields, _ =>
    .ok (.entries ((fields.filter fun f => !f.isPseudo).map fun f =>
      (v.getAttribute σ schema f.name).map (f.name, ·)))
  | none, some names => .ok (.entries ((names.zip i.items).map .ok))
  | none, none => do
    match ← i.export? schema with
    | some exported => return .standIn exported
    | none =>
      if schema.isMapping i.shape then return .entries (i.entries.map (displayedEntry σ schema))
      else if schema.isList i.shape then return .items i.items
      else v.unfoldDeclared σ schema i

/-- The unfolding of an object. -/
def unfold (σ : Store) (schema : Schema) (v : Value) : Node → Except Fault Unfolding
  | .sequence _ items => .ok (.items items)
  | .mapping _ entries => .ok (.entries (entries.map (displayedEntry σ schema)))
  | .instance i => v.unfoldInstance σ schema i

end Value

end RecordPrint
