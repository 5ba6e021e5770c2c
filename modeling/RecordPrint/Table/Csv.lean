import RecordPrint.Table.Layout

/-!
# Comma-separated rows

A row is written as the texts of its cells with commas in between and a line feed at the end. A text that
holds a comma, a quote or a line feed is enclosed in quotes, and quotes inside it are doubled. A row with
one empty text is an empty line.
-/

namespace RecordPrint

namespace Csv

/-- Whether a code point may not stand in a cell outside of quotes. -/
def needsQuotes (c : CodePoint) : Bool := c = .char ',' || c = .char '"' || c = .char '\n'

/-- A code point of a quoted cell. -/
def doubled (c : CodePoint) : Text := if c = .char '"' then [c, c] else [c]

def quoted (t : Text) : Text := .char '"' :: t.flatMap doubled ++ [.char '"']

def cell (t : Text) : Text := if t.any needsQuotes then quoted t else t

/-- The text of a cell: texts stand for themselves, null is empty, anything else is displayed. -/
def textOf (σ : Store) (schema : Schema) (v : Value) : Except Fault Text :=
  match v.content? with
  | some .null => .ok []
  | some (.text t) => .ok t
  | _ => v.display σ schema

def lineOf (ts : List Text) : Text := Text.join [.char ','] (ts.map cell) ++ [.char '\n']

/-- A row as a line. Null by itself is written as an empty text in quotes. -/
def line (σ : Store) (schema : Schema) (row : Row) : Except Fault Text :=
  if row = [Value.null] then .ok (quoted [] ++ [.char '\n']) else (row.mapM (textOf σ schema)).map lineOf

end Csv

end RecordPrint
