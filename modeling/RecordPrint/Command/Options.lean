import RecordPrint.Command.Failure
import RecordPrint.Log.Level
import RecordPrint.Schema.Field

/-!
# Options of commands

How often the options for more and for less to log are given decides the level; they exclude each
other. A column is given as a name, or as a name and a label with an equals sign in between.
-/

namespace RecordPrint

/-- The level that the numbers of options for more and for less to log ask for. -/
def verbosityLevel (verbose quiet : Int) : Except Failure Level :=
  if 0 < verbose ∧ 0 < quiet then
    .error ⟨.usage, "The '--verbose' and '--quiet' options are mutually exclusive."⟩
  else if 3 ≤ verbose then .ok Level.trace
  else if verbose = 2 then .ok Level.debug
  else if verbose = 1 then .ok Level.info
  else if 1 ≤ quiet then .ok Level.error
  else .ok Level.warning

namespace Field

/-- The field that a column option asks for. -/
def ofOption (spec : Text) : Except Failure Field :=
  let (name, label) := spec.cut (.char '=')
  if name.trim = [] then
    .error ⟨.usage, "Invalid --column value " ++ spec.quoted ++ ": expected NAME or NAME=LABEL."⟩
  else .ok ⟨name.trim, label.map Text.trim⟩

/-- The fields that column options ask for; without any there is no choice of columns. -/
def ofOptions (specs : List Text) : Except Failure (Option (List Field)) :=
  (specs.mapM ofOption).map fun fields => if fields = [] then none else some fields

end Field

end RecordPrint
