import RecordPrint.Command.Options
import RecordPrint.Command.Session
import RecordPrint.Command.Syntax
import RecordPrint.Record.Load
import RecordPrint.Text.Lines

/-!
# Rendering records

Records are read from standard input or a file and written as a document to standard output or a file.
The choice of columns and the input are checked before the destination is opened, so that faults in
them leave all files as they are.
-/

namespace RecordPrint

/-- What is asked of a rendering. -/
structure Rendering where
  source : Text
  selector : Text
  destination : Text
  columns : List Text
  deriving DecidableEq

namespace Rendering

def standardInput : Text := "-"

/-- The rendering that arguments ask for: one operand at most names the source. -/
def ofArguments (a : Arguments) : Except UsageFault Rendering :=
  match a.operands with
  | _ :: extra@(_ :: _) => .error (.extraOperands extra)
  | operands => .ok {
      source := operands.headD standardInput
      selector := (a.value? "--format").getD Format.csv.name
      destination := (a.value? "--output").getD []
      columns := a.values "--column" }

def bytesOf (s : Session) (source : Text) : Except Stop (List UInt8) :=
  if source = standardInput then .ok s.input
  else (s.directory.read (Path.ofSlashes source).text).mapError (·.toReadStop source)

def textOf (s : Session) (source : Text) : Except Stop Text := do
  let t ← (Utf8.decode (← bytesOf s source)).mapError (·.toStop source)
  return t.unifyLineEnds

def recordsOf (source t : Text) : Except Stop (List JsonRecord) :=
  (Json.readRecords t).mapError (·.toStop source)

/-- The type of records that have been read: mappings from texts. -/
def recordType : TypeExpr := .mapOf (.builtin "str") (.builtin "Any")

/-- Reads the choice of columns and the records. -/
def prepare (r : Rendering) : Action (Formatter × List JsonRecord) := do
  let fields ← Action.ofResult ((Field.ofOptions r.columns).mapError Stop.failure)
  Action.log (Message.ofColumns fields)
  let t ← Action.ofResult (textOf (← get) r.source)
  let records ← Action.ofResult (recordsOf r.source t)
  Action.log (Message.ofInput t records.length)
  return (⟨some r.selector, ⟨some recordType, fields⟩⟩, records)

/-- What is logged about a document once it is written; nothing if it is not wholly written. -/
def writtenMessages (f : Formatter) (σ : Store) (schema : Schema) (records : List Value) :
    List Message :=
  match f.format?, f.write σ schema records .ofBytes, f.layout.columns σ schema records with
  | some format, (sink, none), .ok columns =>
    [.ofWritten format records.length columns.length sink.chunks]
  | _, _, _ => []

def targetName (destination : Text) : Text := if destination = [] then "STDOUT" else destination

def deliver (f : Formatter) (σ : Store) (schema : Schema) (records : List Value)
    (destination : Text) : Action Unit := do
  let s ← get
  let d := Destination.deliver destination s.directory s.output (f.write σ schema records)
  set { s with directory := d.directory, output := d.output }
  if d.opened then Action.log (Message.ofOpened destination)
  match d.fault with
  | some (.opening fault) => throw (DeliveryFault.toStop (.opening fault) (targetName destination))
  | fault =>
    Action.log (Message.ofStart f schema records.length)
    Action.log (writtenMessages f σ schema records)
    match fault with
    | some fault => throw (fault.toStop (targetName destination))
    | none => return

def run (r : Rendering) : Action Unit := do
  let (f, records) ← r.prepare
  Action.log (Message.ofSelector r.selector ++ Message.ofNothing r.selector)
  let (vs, σ) := Store.ofRecords records
  deliver f σ [] vs r.destination

end Rendering

end RecordPrint
