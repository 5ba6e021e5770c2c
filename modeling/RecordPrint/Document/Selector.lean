import RecordPrint.Text.Case

/-!
# Selectors

A format is selected by a free-form text: blanks around it and the case of its letters do not matter.
Any text that names no format selects none, and then nothing is written.
-/

namespace RecordPrint

inductive Format where
  | json
  | csv
  deriving DecidableEq

namespace Format

def name : Format → Text
  | json => "json"
  | csv => "csv"

/-- A selector without the blanks around it and in small letters; none counts as empty. -/
def key (selector : Option Text) : Text := (selector.getD []).trim.lower

def ofSelector? (selector : Option Text) : Option Format :=
  [json, csv].find? fun f => f.name = key selector

end Format

end RecordPrint
