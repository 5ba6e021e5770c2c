import RecordPrint.Json.Records

/-!
# Loading records into a store

A record that has been read becomes a dictionary of the store; its objects and arrays become
dictionaries and lists with places of their own.
-/

namespace RecordPrint

namespace Store

/-- The store with one more object, and the value that names it. -/
def add (σ : Store) (node : Node) : Value × Store := (.object σ.size, σ.push node)

mutual

/-- A value of what a JSON text denotes. -/
def load (σ : Store) : Json → Value × Store
  | .leaf s => (.scalar s, σ)
  | .array items =>
    let (vs, σ) := loadItems σ items
    σ.add (.sequence .list vs)
  | .object entries =>
    let (es, σ) := loadEntries σ entries
    σ.add (.mapping "dict" es)

/-- The values of the items of an array. -/
def loadItems (σ : Store) : List Json → List Value × Store
  | [] => ([], σ)
  | t :: ts =>
    let (v, σ) := load σ t
    let (vs, σ) := loadItems σ ts
    (v :: vs, σ)

/-- The keys and values of the entries of an object. -/
def loadEntries (σ : Store) : List (Text × Json) → List (Value × Value) × Store
  | [] => ([], σ)
  | (name, t) :: es =>
    let (v, σ) := load σ t
    let (rest, σ) := loadEntries σ es
    ((.text name, v) :: rest, σ)

end

/-- A store of nothing but the given records, and their values. -/
def ofRecords (records : List JsonRecord) : List Value × Store :=
  loadItems #[] (records.map .object)

end Store

end RecordPrint
