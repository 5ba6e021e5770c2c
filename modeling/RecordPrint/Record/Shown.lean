import RecordPrint.Number.Shortest
import RecordPrint.Record.Attribute
import RecordPrint.Record.Walk
import RecordPrint.Time.Shown

/-!
# Displayed values

A value is displayed as text where a mapping becomes an object or gives the columns of a table, and in
cells that a record supplies itself. A value inside another one is shown, which tells more: texts are
quoted, times and records are shown by what makes them, and an object inside of itself by dots.
-/

namespace RecordPrint

/-- The numeral of an integer within the limit. -/
def limitedNumeral (n : Int) : Except Fault Text :=
  match Numeral.limited? n with
  | some t => .ok t
  | none => .error .tooManyDigits

namespace Scalar

/-- A scalar as it is displayed; a text is displayed as it is. -/
def display : Scalar → Except Fault Text
  | null => .ok "None"
  | bool true => .ok "True"
  | bool false => .ok "False"
  | int n => limitedNumeral n
  | float x => .ok x.numeral
  | text t => .ok t

/-- A scalar as it is shown inside other values; a text is quoted. -/
def shown : Scalar → Except Fault Text
  | text t => .ok t.quoted
  | s => s.display

end Scalar

/-- A path as it is shown inside other values: with slashes. -/
def Path.shown (p : Path) : Text :=
  p.text.map fun c => if c = p.separator then .char '/' else c

/-- The items of a sequence or a set as they are shown, in its brackets. -/
def SequenceKind.enclose (kind : SequenceKind) (items : List Text) : Text :=
  let body := Text.join ", " items
  match kind, items with
  | .list, _ => .char '[' :: body ++ [.char ']']
  | .tuple, [_] => .char '(' :: body ++ ",)"
  | .tuple, _ => .char '(' :: body ++ [.char ')']
  | .set, [] => "set()"
  | .set, _ => .char '\x7b' :: body ++ [.char '\x7d']
  | .frozenSet, [] => "frozenset()"
  | .frozenSet, _ => "frozenset(\x7b" ++ body ++ "\x7d)"

/-- The entries of a mapping as they are shown. -/
def encloseEntries (entries : List (Text × Text)) : Text :=
  .char '\x7b' :: Text.join ", " (entries.map fun e => e.1 ++ ": " ++ e.2) ++ [.char '\x7d']

/-- The fields of a record as they are shown. -/
def encloseFields (shape : Text) (fields : List (Text × Text)) : Text :=
  madeBy shape (fields.map fun f => f.1 ++ .char '=' :: f.2)

/-- What is shown of an object. -/
inductive Display where
  | sequence (kind : SequenceKind) (items : List Value)
  | mapping (entries : List (Value × Value))
  /-- Named fields, each of which may turn out to be unreadable when its turn comes. -/
  | fields (shape : Text) (fields : List (Except Fault (Text × Value)))
  /-- Nothing but the name of its type. -/
  | typeOnly (type : Text)

namespace Value

/-- What is shown of an object. -/
def displayOf (σ : Store) (schema : Schema) (v : Value) : Node → Display
  | .sequence kind items => .sequence kind items
  | .mapping type entries => if type = ("dict" : Text) then .mapping entries else .typeOnly type
  | .instance i =>
    match (schema.shape? i.shape).bind Shape.dataFields, (schema.shape? i.shape).bind Shape.slots with
    | some fields, _ =>
      .fields i.shape ((fields.filter fun f => !f.isPseudo).map fun f =>
        (v.getAttribute σ schema f.name).map (f.name, ·))
    | none, some names => .fields i.shape ((names.zip i.items).map .ok)
    | none, none =>
      if schema.isMapping i.shape then .mapping i.entries
      else if schema.isList i.shape then .sequence .list i.items
      else .typeOnly i.shape

/-- What is shown of an object inside of itself. -/
def dotsOf : Display → Text
  | .sequence .list _ => "[...]"
  | .sequence .tuple _ => "(...)"
  | .mapping _ => "\x7b...\x7d"
  | _ => "..."

/-- A value as it is shown inside other values, inside the objects at the places `opened`. -/
def shownWithin (σ : Store) (schema : Schema) (opened : List Nat) (v : Value) : Except Fault Text :=
  match v with
  | scalar s => s.shown
  | refined (.text t) _ _ => .ok t.quoted
  | refined _ shown _ => .ok shown
  | timestamp t => .ok t.shown
  | date d => .ok d.shown
  | clock t => .ok t.shown
  | path p => .ok (madeBy (v.typeName σ) [p.shown.quoted])
  | member enumeration name _ content =>
    (shownWithin σ schema opened content).map fun t =>
      "<" ++ enumeration ++ .char '.' :: name ++ ": " ++ t ++ ">"
  | ref target => (shownWithin σ schema opened target).map fun t => encloseFields "Ref" [("target", t)]
  | missing => .ok missingText
  | object place =>
    if _inside : place < σ.size then
      let display := displayOf σ schema v σ[place]
      if _new : place ∈ opened then .ok (dotsOf display)
      else
        match display with
        | .sequence kind items =>
          (items.mapM fun w => shownWithin σ schema (place :: opened) w).map kind.enclose
        | .mapping entries =>
          (entries.mapM fun (e : Value × Value) => do
            let key ← shownWithin σ schema (place :: opened) e.1
            let value ← shownWithin σ schema (place :: opened) e.2
            return (key, value)).map encloseEntries
        | .fields type fields =>
          (fields.mapM fun e => mapEntry (fun w => shownWithin σ schema (place :: opened) w) e).map
            (encloseFields type)
        | .typeOnly type => .ok type
    else .ok (v.typeName σ)
  | v => .ok (v.typeName σ)
termination_by (unopened σ opened, sizeOf v)
decreasing_by
  · exact Prod.Lex.right _ (by simp only [Value.member.sizeOf_spec]; omega)
  · exact Prod.Lex.right _ (by simp only [Value.ref.sizeOf_spec]; omega)
  all_goals exact Prod.Lex.left _ _ (unopened_cons_lt _inside _new)

/-- A value as it is displayed by itself. -/
def display (σ : Store) (schema : Schema) : Value → Except Fault Text
  | scalar s => s.display
  | refined _ shown _ => .ok shown
  | timestamp t => t.iso (.char ' ')
  | date d => .ok d.iso
  | clock t => t.iso
  | path p => .ok p.text
  | member enumeration name mixin v =>
    if mixin.shown then display σ schema v else .ok (enumeration ++ .char '.' :: name)
  | v => shownWithin σ schema [] v

end Value

end RecordPrint
