import RecordPrint.Json.Plain
import RecordPrint.Record.Normal

/-!
# Writing JSON

A tree as indented JSON text, two blanks for each level. Everything but quotes, backslashes and control
characters is written as it is. The first leaf in the order of the text that has no JSON form decides
which fault is told.
-/

namespace RecordPrint

namespace Json

/-- The number of blanks by which a level is indented. -/
def indentWidth : Nat := 2

/-- The end of a line and the indentation of the next one. -/
def newline (level : Nat) : Text :=
  .char '\n' :: List.replicate (indentWidth * level) (.char ' ')

variable {α : Type}

mutual

/-- A tree as JSON text, inside `level` others; `leaf` gives the text of a leaf at its level. -/
def write (leaf : Nat → α → Except Fault Text) (level : Nat) : Tree α → Except Fault Text
  | .leaf a => leaf level a
  | .array [] => .ok "[]"
  | .array items => do
    return .char '[' :: (← writeItems leaf (level + 1) items) ++ newline level ++ [.char ']']
  | .object [] => .ok "\x7b\x7d"
  | .object entries => do
    return .char '{' :: (← writeEntries leaf (level + 1) entries) ++ newline level ++ [.char '}']

/-- The items of an array, each on a line of its own. -/
def writeItems (leaf : Nat → α → Except Fault Text) (level : Nat) :
    List (Tree α) → Except Fault Text
  | [] => .ok []
  | t :: ts => do
    let first ← write leaf level t
    let rest ← writeItems leaf level ts
    return newline level ++ first ++ (if ts.isEmpty then [] else [.char ',']) ++ rest

/-- The entries of an object, each on a line of its own. -/
def writeEntries (leaf : Nat → α → Except Fault Text) (level : Nat) :
    List (Text × Tree α) → Except Fault Text
  | [] => .ok []
  | (name, t) :: es => do
    let first ← write leaf level t
    let rest ← writeEntries leaf level es
    return newline level ++ quote name ++ (.char ':' :: .char ' ' :: first) ++
      (if es.isEmpty then [] else [.char ',']) ++ rest

end

/-- A leaf of a normal form as JSON text, inside `level` others. -/
def leafText (σ : Store) (schema : Schema) (level : Nat) (v : Value) : Except Fault Text :=
  (plain σ schema v).bind (write (fun _ t => .ok t) level)

/-- A list of records as a JSON document. -/
def document (σ : Store) (schema : Schema) (records : List Value) : Except Fault Text := do
  write (leafText σ schema) 0 (.array (← records.mapM (Value.normalize σ schema)))

end Json

end RecordPrint
