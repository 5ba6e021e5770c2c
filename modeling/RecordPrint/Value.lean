import RecordPrint.Fault
import RecordPrint.Number.Binary64
import RecordPrint.Time.Instant
import RecordPrint.Path

/-!
# Values and stores

The values that records hold. Scalars, times and paths are plain data; containers and records have an
identity, so they live in a store and a value only names their place in it. This is what makes shared
and cyclic records expressible. Without them there are trees: JSON texts denote trees of scalars, and a
record in normal form is a tree of values.
-/

namespace RecordPrint

/-- The values that have a JSON form of their own. -/
inductive Scalar where
  | null
  | bool (b : Bool)
  | int (n : Int)
  | float (x : Binary64)
  | text (t : Text)
  deriving DecidableEq

/-- Plain structured data with leaves of type `α`. The entries of an object have distinct names in a fixed
order. -/
inductive Tree (α : Type) where
  | leaf (a : α)
  | array (items : List (Tree α))
  | object (entries : List (Text × Tree α))

/-- What a JSON text denotes. -/
abbrev Json := Tree Scalar

/-- The list with the value of `key` set to `value`: at its place if it is there, at the end if not. -/
def putEntry {κ α : Type} [DecidableEq κ] (key : κ) (value : α) : List (κ × α) → List (κ × α)
  | [] => [(key, value)]
  | (k, v) :: entries =>
    if k = key then (k, value) :: entries else (k, v) :: putEntry key value entries

/-- The list with all entries of `more` put into it one by one. -/
def putEntries {κ α : Type} [DecidableEq κ] (entries more : List (κ × α)) : List (κ × α) :=
  more.foldl (fun acc e => putEntry e.1 e.2 acc) entries

/-- What the members of an enumeration are besides being members. They are displayed by their names, or
`shown` as what they are. -/
inductive Mixin where
  /-- Nothing: a member only has a value. -/
  | none
  | text (shown : Bool)
  | integer (shown : Bool)
  /-- Numbers, with what comes of formatting one if the enumeration does that in a way of its own. -/
  | real (shown : Bool) (form : Option (Except Fault Text))
  | timestamp (shown : Bool)
  deriving DecidableEq

/-- A value of a record. -/
inductive Value where
  | scalar (s : Scalar)
  /-- A text or number of a refined type with the text that it is displayed as, and with what comes of
  formatting the number if its type does that in a way of its own too. What the number is worth and how
  it compares is left as it is. -/
  | refined (s : Scalar) (shown : Text) (form : Option (Except Fault Text))
  | timestamp (t : Timestamp)
  | date (d : Date)
  | clock (t : ZonedClock)
  | path (p : Path)
  /-- A member of an enumeration. -/
  | member (shape name : Text) (mixin : Mixin) (value : Value)
  /-- One level of indirection. -/
  | ref (target : Value)
  /-- The object at a place of the store. -/
  | object (place : Nat)
  /-- A shape itself, not a record of it, and the name of its type. -/
  | shape (name type : Text)
  /-- The mark of a value that does not exist. -/
  | missing
  /-- A value of some other type. -/
  | foreign (type : Text)
  deriving DecidableEq

/-- How the mark of a value that does not exist is shown. -/
def Value.missingText : Text := "NO_VALUE"

inductive SequenceKind where
  | list
  | tuple
  | set
  | frozenSet
  deriving DecidableEq

/-- A record of a declared shape. -/
structure Instance where
  shape : Text
  /-- The attributes that are set on the record itself. -/
  attributes : List (Text × Value)
  /-- The positional items of a record that is also a tuple or a list. -/
  items : List Value
  /-- The entries of a record that is also a mapping. -/
  entries : List (Value × Value)
  /-- What the computed attributes of its shape give for this record. -/
  computed : List (Text × Except Fault Value)
  /-- What the export of its shape gives for this record. -/
  exported : Except Fault Value

/-- An object with an identity. -/
inductive Node where
  | sequence (kind : SequenceKind) (items : List Value)
  /-- A mapping; the type name tells dictionaries from other mappings. -/
  | mapping (type : Text) (entries : List (Value × Value))
  | instance (i : Instance)

/-- The objects of a run. A place of the store is the identity of the object there. -/
abbrev Store := Array Node

namespace Scalar

def typeName : Scalar → Text
  | null => "NoneType"
  | bool _ => "bool"
  | int _ => "int"
  | float _ => "float"
  | text _ => "str"

end Scalar

namespace Mixin

/-- Whether members are displayed as what they are and not by their names. -/
def shown : Mixin → Bool
  | none => false
  | text shown | integer shown | real shown _ | timestamp shown => shown

/-- What comes of formatting a member that is a number; none if the number is formatted. A name has no
such form. -/
def form? : Mixin → Option (Except Fault Text)
  | real _ (some form) => some form
  | mixin => if mixin.shown then .none else some (.error .noFixedPoint)

end Mixin

namespace Value

instance : Coe Scalar Value := ⟨scalar⟩

/-- The value that stands for nothing. -/
def null : Value := .scalar .null

def text (t : Text) : Value := .scalar (.text t)

def int (n : Int) : Value := .scalar (.int n)

/-- The scalar that a value is, apart from how it is displayed; none for values that are no scalars. -/
def content? : Value → Option Scalar
  | scalar s | refined s _ _ => some s
  | member _ _ .none _ | member _ _ (.timestamp _) _ => none
  | member _ _ _ v => v.content?
  | _ => none

/-- The timestamp that a value is, apart from how it is displayed. -/
def moment? : Value → Option Timestamp
  | timestamp t => some t
  | member _ _ (.timestamp _) v => v.moment?
  | _ => none

/-- A member that is a scalar is what its value is. -/
theorem content?_of_member {enumeration name : Text} {mixin : Mixin} {v : Value} {s : Scalar}
    (h : (member enumeration name mixin v).content? = some s) : v.content? = some s := by
  cases mixin with
  | none | timestamp => cases h
  | text | integer | real => exact h

/-- No value is a scalar and a timestamp at once. -/
theorem moment?_of_content {v : Value} {s : Scalar} (h : v.content? = some s) : v.moment? = none := by
  cases v with
  | timestamp | ref | object | shape | missing | foreign | date | clock | path => cases h
  | scalar | refined => rfl
  | member enumeration name mixin content =>
    cases mixin with
    | none | timestamp => cases h
    | text | integer | real => rfl

/-- What comes of formatting a finite number; none if it is formatted as what it is. -/
def form? : Value → Option (Except Fault Text)
  | refined (.float (.finite _)) _ form => form
  | member _ _ mixin v =>
    match v.content? with
    | some (.float (.finite _)) => mixin.form?
    | _ => none
  | _ => none

/-- A value without one level of indirection. -/
def deref : Value → Value
  | ref target => target
  | v => v

end Value

def SequenceKind.typeName : SequenceKind → Text
  | list => "list"
  | tuple => "tuple"
  | set => "set"
  | frozenSet => "frozenset"

def Node.typeName : Node → Text
  | sequence kind _ => kind.typeName
  | mapping type _ => type
  | .instance i => i.shape

def Value.typeName (σ : Store) : Value → Text
  | scalar s | refined s _ _ => s.typeName
  | timestamp _ => "datetime"
  | date _ => "date"
  | clock _ => "time"
  | path p => if p.separator = .char '/' then "PurePosixPath" else "PureWindowsPath"
  | member enumeration _ _ _ => enumeration
  | ref _ => "Ref"
  | object place => (σ[place]?.map Node.typeName).getD "object"
  | shape _ type => type
  | missing => "_NoValue"
  | foreign type => type

end RecordPrint
