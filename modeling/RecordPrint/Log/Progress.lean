import RecordPrint.Document.Formatter
import RecordPrint.Json.Records
import RecordPrint.Log.Level

/-!
# Messages about documents

What is logged while records are read and a document is written: the layout of the input, the format and
the record type of the document, and its size once it is written.
-/

namespace RecordPrint

structure Message where
  level : Level
  text : Text
  deriving DecidableEq

/-- A list of texts as messages show it. -/
def Text.listed (ts : List Text) : Text :=
  .char '[' :: Text.join ", " (ts.map Text.quoted) ++ [.char ']']

def InputLayout.name : InputLayout → Text
  | array => "array"
  | lines => "ndjson"

/-- The name of a record type, if it is a class. -/
def TypeExpr.className? : TypeExpr → Option Text
  | .shape s => some s
  | .builtin name => some name
  | .listOf _ => some "list"
  | .mapOf _ _ => some "dict"
  | _ => none

namespace Message

def ofColumns : Option (List Field) → List Message
  | none => []
  | some fields => [⟨Level.debug, "Explicit columns: " ++ Text.listed (fields.map Field.header)⟩]

/-- The number of records that a text holds, unless it is blank. -/
def ofInput (t : Text) (count : Nat) : List Message :=
  if t.trim = [] then []
  else [⟨Level.debug, "Parsed " ++ Numeral.ofNat count ++ " record(s) from JSON " ++
    (Json.inputLayout t.trim).name ++ " input"⟩]

/-- A selector that selects nothing although it is not empty. -/
def ofSelector (selector : Text) : List Message :=
  if Format.key selector = [] ∨ (Format.ofSelector? selector).isSome then []
  else [⟨Level.debug, "Unrecognized output format " ++ selector.quoted ++ ": nothing will be written"⟩]

/-- The warning that nothing is written for a selector that selects nothing. -/
def ofNothing (selector : Text) : List Message :=
  if Format.key selector = [] ∨ (Format.ofSelector? selector).isSome then []
  else [⟨Level.warning, "Unknown output format " ++ selector.quoted ++ ": nothing written"⟩]

/-- A file that was opened. -/
def ofOpened (name : Text) : List Message := [⟨Level.debug, "Opened destination file " ++ name⟩]

/-- The fields of the record type of a table whose columns are not chosen. -/
def ofLayout (schema : Schema) (layout : Layout) : List Message :=
  match layout.fields, layout.recordType with
  | none, some t =>
    match t.className? with
    | some name =>
      [⟨Level.trace, "Fields of " ++ name ++ ": " ++ Text.listed ((schema.describe t).map Field.name)⟩]
    | none => []
  | _, _ => []

/-- The start of a document of a number of records. -/
def ofStart (f : Formatter) (schema : Schema) (count : Nat) : List Message :=
  match f.format? with
  | none =>
    ofSelector (f.selector.getD []) ++
      [⟨Level.trace, "No output format selected (" ++ (f.selector.getD []).quoted ++ "): nothing to write"⟩]
  | some format =>
    ⟨Level.trace, "Rendering " ++ Numeral.ofNat count ++ " record(s) as " ++ format.name⟩ ::
      if format = .csv then ofLayout schema f.layout else []

/-- The size of a document of a number of records, whose chunks and columns are given. -/
def ofWritten (format : Format) (count columns : Nat) (chunks : List Text) : Message :=
  match format with
  | .csv =>
    ⟨Level.debug, "TabularRenderer: wrote " ++ Numeral.ofNat columns ++ " column(s) x " ++
      Numeral.ofNat count ++ " record(s)"⟩
  | .json =>
    ⟨Level.debug, "StructuredRenderer: wrote " ++ Numeral.ofNat count ++ " record(s), " ++
      Numeral.ofNat chunks.flatten.length ++ " chars"⟩

end Message

end RecordPrint
