import RecordPrint.Proofs.Schema.Declared

/-!
# Changes of fields

Declarations whose fields are changed, but not their names and defaults, and what becomes of the schema.

* `FieldChange` — a change of annotations and tags that decides by itself what only looks like a field;
* `Schema.ofDecls_change` — changed declarations give the changed schema;
* `Schema.writtenHints_change` — and its annotations are the changed ones.
-/

namespace RecordPrint

/-! ### Changes -/

/-- A change of fields by their names: of their annotations, of whether they only look like fields, and of the labels
attached to them. -/
structure FieldChange where
  type : Text → TypeExpr → TypeExpr
  isPseudo : Text → Bool → Bool
  tag : Text → Option Text → Option Text
  isPseudoField_type : ∀ name t, (type name t).isPseudoField = isPseudo name t.isPseudoField

def DataField.change (c : FieldChange) (f : DataField) : DataField :=
  { f with isPseudo := c.isPseudo f.name f.isPseudo, tag := c.tag f.name f.tag }

def FieldDecl.change (c : FieldChange) (f : FieldDecl) : FieldDecl :=
  { f with annotation := c.type f.name f.annotation, tag := c.tag f.name f.tag }

/-- A declaration with changed fields. -/
def ShapeDecl.change (c : FieldChange) (d : ShapeDecl) : ShapeDecl :=
  { d with fields := d.fields.map (FieldDecl.change c) }

/-- A shape with changed fields. -/
def Shape.change (c : FieldChange) (s : Shape) : Shape :=
  { s with
    annotations := s.annotations.map fun a => (a.1, c.type a.1 a.2)
    dataFields := s.dataFields.map (·.map (DataField.change c)) }

/-- A schema with changed fields. -/
def Schema.change (c : FieldChange) (schema : Schema) : Schema := schema.map (Shape.change c)

namespace Schema

variable (c : FieldChange) {schema : Schema}

theorem shape?_change (name : Text) : (schema.change c).shape? name = (schema.shape? name).map (Shape.change c) := by
  unfold change shape?
  rw [List.find?_map]
  rfl

theorem shapes_change (ancestors : List Ancestor) :
    (schema.change c).shapes ancestors = (schema.shapes ancestors).map (Shape.change c) := by
  unfold shapes
  rw [List.map_filterMap]
  refine List.filterMap_congr fun a _ => ?_
  cases a with
  | shape name => exact shape?_change c name
  | _ => rfl

theorem lineage_change (a : Ancestor) : (schema.change c).lineage a = schema.lineage a := by
  cases a with
  | shape name =>
    rw [lineage, lineage, shape?_change, Option.map_map]
    rfl
  | _ => rfl

end Schema

namespace ShapeDecl

variable (c : FieldChange) {schema : Schema} (d : ShapeDecl)

theorem lineage_change : (d.change c).lineage (schema.change c) = d.lineage schema := by
  have hbases : d.bases.map (Schema.lineage (schema.change c)) = d.bases.map (Schema.lineage schema) :=
    List.map_congr_left fun a _ => Schema.lineage_change c a
  unfold lineage
  simp only [change, hbases]

theorem annotations_change : (d.change c).annotations (schema.change c) =
    (d.annotations schema).map fun a => (a.1, c.type a.1 a.2) := by
  have hown : (d.change c).fields.map (fun f => (f.name, f.annotation)) =
      (d.fields.map fun f => (f.name, f.annotation)).map fun a => (a.1, c.type a.1 a.2) := by
    simp only [change, List.map_map]
    rfl
  have hkind : (d.change c).kind = d.kind := rfl
  have hbases : (d.change c).bases = d.bases := rfl
  unfold annotations
  rw [hown, hkind, hbases, Schema.shapes_change, List.foldl_map]
  split
  · have hput : ∀ (acc : List (Text × TypeExpr)) (s : Shape),
        putEntries (acc.map fun a => (a.1, c.type a.1 a.2)) (s.change c).annotations =
          (putEntries acc s.annotations).map fun a => (a.1, c.type a.1 a.2) :=
      fun acc s => putEntries_map c.type acc s.annotations
    have hfold : (Schema.shapes schema d.bases).foldl (fun acc s => putEntries acc (s.change c).annotations) [] =
        ((Schema.shapes schema d.bases).foldl (fun acc s => putEntries acc s.annotations) []).map
          fun a => (a.1, c.type a.1 a.2) := by
      refine foldl_map_entries ?_ _
      exact hput
    simp only [hfold, putEntries_map]
  · rfl

theorem attributes_change : (d.change c).attributes = d.attributes := by
  have hfields : (d.change c).fieldAttributes = d.fieldAttributes := by
    unfold fieldAttributes
    simp only [change]
    cases d.kind with
    | tuple =>
      simp only [List.mapIdx_eq_zipIdx_map, List.zipIdx_map, List.map_map]
      rfl
    | dictionary => rfl
    | data | plain | enumeration =>
      simp only [List.filterMap_map]
      rfl
  unfold attributes
  rw [hfields]
  rfl

theorem ownDataFields_change (s : Shape) :
    (s.change c).ownDataFields = s.ownDataFields.map (·.map (DataField.change c)) := by
  have hkind : (s.change c).kind = s.kind := rfl
  unfold Shape.ownDataFields
  rw [hkind]
  split <;> rfl

theorem dataFields_change :
    (d.change c).dataFields (schema.change c) = (d.dataFields schema).map (·.map (DataField.change c)) := by
  have hkind : (d.change c).kind = d.kind := rfl
  have hown : (d.change c).fields.map (fun f => (⟨f.name, f.annotation.isPseudoField, f.tag⟩ : DataField)) =
      (d.fields.map fun f => (⟨f.name, f.annotation.isPseudoField, f.tag⟩ : DataField)).map (DataField.change c) := by
    simp only [change, List.map_map]
    refine List.map_congr_left fun f _ => ?_
    simp [FieldDecl.change, DataField.change, c.isPseudoField_type]
  unfold dataFields
  rw [hkind, hown, lineage_change, Schema.shapes_change]
  split
  · have hcollect : ∀ (acc : List (Text × DataField)) (fs : List DataField),
        putEntries (acc.map fun e => (e.1, e.2.change c)) ((fs.map (DataField.change c)).map fun f => (f.name, f)) =
          (putEntries acc (fs.map fun f => (f.name, f))).map fun e => (e.1, e.2.change c) := by
      intro acc fs
      rw [← putEntries_map (fun _ f => DataField.change c f), List.map_map, List.map_map]
      rfl
    have hinherited :
        ((((schema.shapes (d.lineage schema).tail).map (Shape.change c)).reverse).filterMap Shape.dataFields) =
          ((schema.shapes (d.lineage schema).tail).reverse.filterMap Shape.dataFields).map
            (·.map (DataField.change c)) := by
      rw [← List.map_reverse, List.filterMap_map, List.map_filterMap]
      rfl
    have hfold : ∀ own : List (List DataField),
        own.foldl (fun acc fs => putEntries acc ((fs.map (DataField.change c)).map fun f => (f.name, f))) [] =
          (own.foldl (fun acc fs => putEntries acc (fs.map fun f => (f.name, f))) []).map
            fun e => (e.1, e.2.change c) := by
      refine foldl_map_entries ?_
      exact hcollect
    simp only [hinherited, List.foldl_map]
    rw [hfold, hcollect]
    simp only [Option.map_some, List.map_map, Function.comp_def]
  · rw [List.findSome?_map, List.map_findSome?]
    congr 1
    funext s
    exact ownDataFields_change c s

theorem slots_change : (d.change c).slots (schema.change c) = d.slots schema := by
  have hkind : (d.change c).kind = d.kind := rfl
  have hnames : (d.change c).fields.map FieldDecl.name = d.fields.map FieldDecl.name := by
    simp only [change, List.map_map]
    rfl
  unfold slots
  rw [hkind, hnames, lineage_change, Schema.shapes_change, List.findSome?_map]
  rfl

theorem toShape_change : (d.change c).toShape (schema.change c) = (d.toShape schema).change c := by
  unfold toShape Shape.change
  rw [lineage_change, annotations_change, attributes_change, dataFields_change, slots_change]
  rfl

end ShapeDecl

namespace Schema

variable (c : FieldChange) {schema : Schema}

/-- Changed declarations give the changed schema. -/
theorem ofDecls_change (ds : List ShapeDecl) : ofDecls (ds.map (ShapeDecl.change c)) = (ofDecls ds).change c := by
  have hdeclare : ∀ (schema : Schema) (d : ShapeDecl),
      (schema.change c).declare (d.change c) = (schema.declare d).change c := by
    intro schema d
    rw [declare, ShapeDecl.toShape_change, change, change, declare, List.map_append]
    rfl
  rw [ofDecls, List.foldl_map]
  exact @List.foldl_hom _ _ _ (change c) declare (fun schema d => schema.declare (d.change c)) ds [] hdeclare

theorem dataFields_change (shape : Text) : ((schema.change c).shape? shape).bind Shape.dataFields =
    ((schema.shape? shape).bind Shape.dataFields).map (·.map (DataField.change c)) := by
  rw [shape?_change, Option.bind_map, Option.map_bind]
  rfl

theorem slots_change (shape : Text) :
    ((schema.change c).shape? shape).bind Shape.slots = (schema.shape? shape).bind Shape.slots := by
  rw [shape?_change, Option.bind_map]
  rfl

theorem openAnnotations_change (s : Shape) :
    openAnnotations (s.change c) = (openAnnotations s).map fun a => (a.1, a.2.1, c.type a.1 a.2.2) := by
  simp only [openAnnotations, Shape.change, List.map_map]
  rfl

theorem writtenHints_change (shape : Text) : (schema.change c).writtenHints shape =
    (schema.writtenHints shape).map fun a => (a.1, a.2.1, c.type a.1 a.2.2) := by
  have hput : ∀ (acc : List (Text × Bool × TypeExpr)) (s : Shape),
      putEntries (acc.map fun a => (a.1, a.2.1, c.type a.1 a.2.2)) (openAnnotations (s.change c)) =
        (putEntries acc (openAnnotations s)).map fun a => (a.1, a.2.1, c.type a.1 a.2.2) := by
    intro acc s
    rw [openAnnotations_change]
    exact putEntries_map (fun name (a : Bool × TypeExpr) => (a.1, c.type name a.2)) acc (openAnnotations s)
  unfold writtenHints
  rw [lineage_change, shapes_change, ← List.map_reverse, List.foldl_map]
  refine foldl_map_entries ?_ _
  exact hput

end Schema

end RecordPrint
