import RecordPrint.Document.Selector
import RecordPrint.Document.Sink
import RecordPrint.Json.Writer
import RecordPrint.Table.Csv

/-!
# Formatters

A formatter writes lists of records to a sink in the selected format. A document is made as a whole
before the first of its chunks is written: JSON is one chunk, a table has one chunk for each row. Only
cells that records supply themselves, and that are no texts, get their texts when their row is written.
-/

namespace RecordPrint

/-- Why a document is not, or not wholly, written. -/
inductive WriteFault where
  | record (f : Fault)
  | stream (f : StreamFault)
  deriving DecidableEq

/-- A selector with the layout of tables. -/
structure Formatter where
  selector : Option Text
  layout : Layout

namespace Formatter

/-- The record type of a formatter: the one it is given, or else the one it is made for, unless that is
a variable. -/
def recordTypeOf (given madeFor : Option TypeExpr) : Option TypeExpr :=
  match given, madeFor with
  | some t, _ => some t
  | none, some .variable => none
  | none, t => t

def format? (f : Formatter) : Option Format := Format.ofSelector? f.selector

/-- The chunks of a document in a format, each of which may turn out to have no text. -/
def chunksIn (format : Format) (layout : Layout) (σ : Store) (schema : Schema)
    (records : List Value) : Except Fault (List (Except Fault Text)) :=
  match format with
  | .json => (Json.document σ schema records).map fun t => [.ok t]
  | .csv => (layout.rows σ schema records).map (·.map (Csv.line σ schema))

/-- The chunks of a document; there are none without a format. -/
def chunks (f : Formatter) (σ : Store) (schema : Schema) (records : List Value) :
    Except Fault (List (Except Fault Text)) :=
  match f.format? with
  | none => .ok []
  | some format => chunksIn format f.layout σ schema records

/-- The sink after as many chunks as have a text and are taken, and what is the matter with the first
other one. -/
def putChunks (sink : Sink) : List (Except Fault Text) → Sink × Option WriteFault
  | [] => (sink, none)
  | .error fault :: _ => (sink, some (.record fault))
  | .ok t :: chunks =>
    match sink.put t with
    | .ok sink => putChunks sink chunks
    | .error fault => (sink, some (.stream fault))

/-- The sink after a document has been written to it. -/
def write (f : Formatter) (σ : Store) (schema : Schema) (records : List Value) (sink : Sink) :
    Sink × Option WriteFault :=
  match f.chunks σ schema records with
  | .error fault => (sink, some (.record fault))
  | .ok chunks => putChunks sink chunks

end Formatter

end RecordPrint
