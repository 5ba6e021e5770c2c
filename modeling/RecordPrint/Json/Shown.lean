import RecordPrint.Number.Shortest
import RecordPrint.Template.Argument
import RecordPrint.Value

/-!
# Plain data in messages

How plain data are shown in messages, and as arguments of templates.
-/

namespace RecordPrint

mutual

/-- Plain data as messages show it. -/
def shownData : Json → Text
  | .leaf .null => "None"
  | .leaf (.bool b) => if b then "True" else "False"
  | .leaf (.int n) => Numeral.ofInt n
  | .leaf (.float x) => x.numeral
  | .leaf (.text t) => t.quoted
  | .array items => .char '[' :: shownItems items ++ [.char ']']
  | .object entries => .char '\x7b' :: shownEntries entries ++ [.char '\x7d']

/-- The items of an array as messages show them. -/
def shownItems : List Json → Text
  | [] => []
  | [d] => shownData d
  | d :: ds => shownData d ++ ", " ++ shownItems ds

/-- The entries of an object as messages show them. -/
def shownEntries : List (Text × Json) → Text
  | [] => []
  | [(name, d)] => name.quoted ++ ": " ++ shownData d
  | (name, d) :: es => name.quoted ++ ": " ++ shownData d ++ ", " ++ shownEntries es

end

/-- What plain data are worth, if they are a number. -/
def worthOfData : Json → Option Amount
  | .leaf (.bool b) => some (.whole (if b then 1 else 0))
  | .leaf (.int n) => some (.whole n)
  | .leaf (.float x) => some (.real x)
  | _ => none

/-- Plain data as the argument of a template. -/
def Argument.ofData (d : Json) : Argument where
  displayed := match d with
    | .leaf (.text t) => t
    | d => shownData d
  shown := shownData d
  isText := match d with
    | .leaf (.text _) => true
    | _ => false
  worth := worthOfData d
  typeName := match d with
    | .leaf s => s.typeName
    | .array _ => "list"
    | .object _ => "dict"

/-- Plain data as the arguments of a template. The entries of a single object that is not empty are
asked for by their names. -/
def Supply.ofData : List Json → Supply
  | [.object (e :: es)] => .byName (.ofData (.object (e :: es))) ((e :: es).map fun e => (e.1, .ofData e.2))
  | ds => .inOrder (ds.map .ofData)

end RecordPrint
