import RecordPrint.Schema.Field
import RecordPrint.Record.Attribute
import RecordPrint.Table.Cell

/-!
# Layouts of tables

A table has a header and a row of cells for each record. Its columns are the given ones, or the cells
that the record type supplies itself, or the fields of the record type, or else the keys of the first
record. The record type is the given one or the type of the first record.
-/

namespace RecordPrint

/-- What is known about a table before its records are. -/
structure Layout where
  recordType : Option TypeExpr
  fields : Option (List Field)

/-- A row of a table: its cells as values, most of which are texts. -/
abbrev Row := List Value

namespace Layout

/-- The record type of a table, behind one level of indirection. -/
def rowType (layout : Layout) (σ : Store) (records : List Value) : Option TypeExpr :=
  match layout.recordType with
  | some t => some t.deref
  | none => records.head?.map fun first => first.deref.recordType σ

/-- The keys of a mapping as columns. -/
def keyColumns (σ : Store) (schema : Schema) (entries : List (Value × Value)) :
    Except Fault (List Field) :=
  entries.mapM fun e => (e.1.display σ schema).map Field.unlabelled

/-- The columns that the keys of the first record give: none if it is no mapping. -/
def firstKeys (σ : Store) (schema : Schema) (records : List Value) : Except Fault (List Field) :=
  match records.head?.bind fun first => first.deref.entries? σ schema with
  | some entries => keyColumns σ schema entries
  | none => .ok []

def columns (layout : Layout) (σ : Store) (schema : Schema) (records : List Value) :
    Except Fault (List Field) :=
  match layout.fields with
  | some fields => .ok fields
  | none =>
    match ((layout.rowType σ records).map schema.describe).getD [] with
    | [] => firstKeys σ schema records
    | fields => .ok fields

/-- The cell of a field of a record: empty if the record does not have the field. -/
def cellOf (σ : Store) (schema : Schema) (record : Value) (f : Field) : Except Fault Text := do
  let v ← record.field σ schema f.name
  if v = .missing then return [] else v.cell

def row (σ : Store) (schema : Schema) (fields : List Field) (record : Value) : Except Fault Row :=
  (fields.mapM (cellOf σ schema record.deref)).map (·.map Value.text)

/-- The row that a record supplies itself; its cells are taken as they are. -/
def suppliedRow (σ : Store) (schema : Schema) (record : Value) : Except Fault Row :=
  record.deref.suppliedRow σ schema

/-- What the record type of a table gives as its header, unless the columns are given or the records do
not supply their cells. -/
def suppliedHeaders? (layout : Layout) (σ : Store) (schema : Schema) (records : List Value) :
    Option (Option (List Text)) :=
  match layout.fields, layout.rowType σ records with
  | none, some (.shape name) => schema.headers? name
  | _, _ => none

/-- The header of a table and a row for each record. -/
def rows (layout : Layout) (σ : Store) (schema : Schema) (records : List Value) :
    Except Fault (List Row) := do
  match layout.suppliedHeaders? σ schema records with
  | some none => throw (.notIterable Scalar.null.typeName)
  | some (some headers) =>
    return headers.map Value.text :: (← records.mapM (suppliedRow σ schema))
  | none =>
    let fields ← layout.columns σ schema records
    return (fields.map fun f => .text f.header) :: (← records.mapM (row σ schema fields))

end Layout

end RecordPrint
