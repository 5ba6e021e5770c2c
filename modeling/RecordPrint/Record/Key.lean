import RecordPrint.Value

/-!
# Keys of mappings

The keys of a mapping are values. Two keys are the same if they are equal as values: numbers of all
kinds compare by what they are worth, refined texts and members by their content, times by their instant
and drive paths without regard to capitals.
-/

namespace RecordPrint

namespace Scalar

/-- The worth of a finite number, in units of `2 ^ -1074`. -/
def worth? : Scalar → Option Int
  | bool b => some (if b then Binary64.unitsPerOne else 0)
  | int n => some (n * Binary64.unitsPerOne)
  | float (.finite x) => some (if x.negative then -x.units else x.units)
  | _ => none

/-- Whether two scalars are the same key. -/
def sameKey : Scalar → Scalar → Bool
  | float .nan, float .nan => false
  | a, b =>
    match a.worth?, b.worth? with
    | some m, some n => m = n
    | _, _ => a = b

end Scalar

namespace Value

/-- The items of a sequence or a set, with its kind; a record that is a tuple counts as one. -/
def items? (σ : Store) : Value → Option (SequenceKind × List Value)
  | object place =>
    match σ[place]? with
    | some (.sequence kind items) => some (kind, items)
    | some (.instance i) => if i.items = [] then none else some (.tuple, i.items)
    | _ => none
  | _ => none

/-- Whether two collections of items are the same, given when two items are: lists and tuples compare
item by item, and sets by what is in them. -/
def sameItems (same : Value → Value → Bool) :
    (SequenceKind × List Value) → (SequenceKind × List Value) → Bool
  | (.list, xs), (.list, ys) | (.tuple, xs), (.tuple, ys) =>
    xs.length = ys.length && (xs.zip ys).all fun p => same p.1 p.2
  | (.set, xs), (.set, ys) | (.set, xs), (.frozenSet, ys) | (.frozenSet, xs), (.set, ys)
  | (.frozenSet, xs), (.frozenSet, ys) => xs.length = ys.length && xs.all fun x => ys.any (same x)
  | _, _ => false

/-- Whether a value is one that other values of its kind are told from. -/
def hasIdentity : Value → Bool
  | member _ _ _ _ | object _ => true
  | _ => false

/-- Whether two values are the same key, given when two items of collections are. -/
def sameBy (σ : Store) (same : Value → Value → Bool) : Value → Value → Bool
  | ref x, ref y => sameBy σ same x y
  | path p, path q => p.isSame q
  | clock s, clock t => s.isSame t
  | a, b =>
    (a.hasIdentity && a = b) ||
      match a.content?, b.content? with
      | some s, some t => s.sameKey t
      | _, _ =>
        match a.moment?, b.moment? with
        | some s, some t => s.isSame t
        | _, _ =>
          match a.items? σ, b.items? σ with
          | some xs, some ys => sameItems same xs ys
          | _, _ => a = b

/-- Whether two values are the same key, looking into collections of items up to a depth. -/
def sameKey (σ : Store) : (depth : Nat) → Value → Value → Bool
  | 0, a, b => sameBy σ (fun x y => x = y) a b
  | depth + 1, a, b => sameBy σ (fun x y => sameKey σ depth x y) a b

/-- The entries with the value of a key set: in the place of the same key, or at the end. -/
def putKey (σ : Store) (key value : Value) : List (Value × Value) → List (Value × Value)
  | [] => [(key, value)]
  | (k, v) :: entries =>
    if sameKey σ σ.size k key then (k, value) :: entries else (k, v) :: putKey σ key value entries

/-- The entries of a mapping that is filled in the given order. -/
def fillEntries (σ : Store) (entries : List (Value × Value)) : List (Value × Value) :=
  entries.foldl (fun acc e => putKey σ e.1 e.2 acc) []

/-- The values without those that are the same key as an earlier one. -/
def distinct (σ : Store) (vs : List Value) : List Value :=
  (fillEntries σ (vs.map fun v => (v, v))).map Prod.fst

end Value

end RecordPrint
