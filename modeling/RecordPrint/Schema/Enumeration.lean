import RecordPrint.Record.Key
import RecordPrint.Record.Shown

/-!
# Enumerations

The members of an enumeration have a name and a value. Of several names with one value the first one is
the member's, the others only lead to it. Where the members are texts or numbers themselves, what they
are declared with is converted to that.
-/

namespace RecordPrint

namespace Scalar

/-- The integer that a scalar is worth, without what is behind the point. -/
def truncated? : Scalar → Option Int
  | null => none
  | bool b => some (if b then 1 else 0)
  | int n => some n
  | float (.finite x) =>
    let whole : Nat := x.units / Binary64.unitsPerOne
    some (if x.negative then -whole else whole)
  | float _ => none
  | text t => (Numeral.read t).toOption.map Int.ofNat

/-- The number of the binary format that a scalar is worth. -/
def real? : Scalar → Option Binary64
  | bool b => some (.ofRatio false (if b then 1 else 0) 1)
  | int n => some (.ofRatio (n < 0) n.natAbs 1)
  | float x => some x
  | _ => none

end Scalar

/-- The value of a member that is declared with the value `v`; values that cannot be converted stay. -/
def Mixin.convert (σ : Store) (schema : Schema) (mixin : Mixin) (v : Value) : Value :=
  let converted : Option Scalar := match mixin with
    | none | timestamp _ => .none
    | text _ => (v.display σ schema).toOption.map Scalar.text
    | integer _ => (v.content?.bind Scalar.truncated?).map Scalar.int
    | real _ _ => (v.content?.bind Scalar.real?).map Scalar.float
  (converted.map Value.scalar).getD v

/-- An enumeration with the names and values of its members. -/
structure Enumeration where
  name : Text
  mixin : Mixin
  members : List (Text × Value)

namespace Enumeration

/-- The enumeration whose members are declared with the given names and values. -/
def ofEntries (σ : Store) (schema : Schema) (name : Text) (mixin : Mixin)
    (entries : List (Text × Value)) : Enumeration :=
  ⟨name, mixin, entries.map fun e => (e.1, mixin.convert σ schema e.2)⟩

/-- The member that a name of an enumeration leads to. -/
def member? (σ : Store) (e : Enumeration) (name : Text) : Option Value := do
  let value ← e.members.lookup name
  let first := (e.members.find? fun m => m.2.sameKey σ σ.size value).getD (name, value)
  return .member e.name first.1 e.mixin first.2

/-- What the names of an enumeration lead to. -/
def byName (σ : Store) (e : Enumeration) : List (Text × Value) :=
  e.members.filterMap fun m => (e.member? σ m.1).map (m.1, ·)

end Enumeration

end RecordPrint
