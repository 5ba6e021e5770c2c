import RecordPrint.Proofs.Schema.Changes

/-!
# Labels

Declarations, shapes and type expressions whose labels are left blank, and what of a schema does not depend on them.

* `TypeExpr.resolve?_blank` — resolving a blank expression gives the resolved expression, where alternatives that
  differed in nothing but their labels count once;
* `Schema.ofDecls_blank` — declarations with blank labels give the schema with blank labels;
* `Schema.Alike` — schemas that differ in nothing but the labels of their fields; `alike_of_blank_eq` — schemas that
  are the same with blank labels are such, unless alternatives that differ in nothing else become one attribute of a
  shape.
-/

namespace RecordPrint

/-! ### Type expressions -/

/-- A mark with a blank header. -/
def Mark.blank : Mark → Mark
  | .column _ => .column []
  | m => m

namespace TypeExpr

/-- An expression with blank headers. -/
def blank : TypeExpr → TypeExpr
  | ref t => ref t.blank
  | either a b => either a.blank b.blank
  | annotated t marks => annotated t.blank (marks.map Mark.blank)
  | qualified q t => qualified q t.blank
  | listOf t => listOf t.blank
  | mapOf k v => mapOf k.blank v.blank
  | quoted t => quoted t.blank
  | t => t

@[simp] theorem isBareTopOnly_blank (t : TypeExpr) : t.blank.isBareTopOnly = t.isBareTopOnly := by
  induction t with
  | annotated t marks ih => exact ih
  | bare q => rfl
  | _ => rfl

@[simp] theorem isTopOnly_blank (t : TypeExpr) : t.blank.isTopOnly = t.isTopOnly := by
  cases t with
  | qualified q t => cases q <;> rfl
  | annotated t marks => exact isBareTopOnly_blank t
  | _ => rfl

@[simp] theorem isMeaningful_blank (t : TypeExpr) : t.blank.isMeaningful = t.isMeaningful := by
  induction t with
  | annotated t marks ih =>
    cases marks with
    | nil => rfl
    | cons m marks => exact ih
  | qualified q t ih => cases q <;> simp [blank, isMeaningful, ih]
  | either a b iha ihb | mapOf a b iha ihb => simp [blank, isMeaningful, iha, ihb]
  | ref t ih | listOf t ih => exact ih
  | _ => rfl

@[simp] theorem isClassVar_blank (t : TypeExpr) : t.blank.isClassVar = t.isClassVar := by
  induction t with
  | annotated t marks ih => exact ih
  | qualified q t => cases q <;> rfl
  | _ => rfl

@[simp] theorem isPseudoField_blank (t : TypeExpr) : t.blank.isPseudoField = t.isPseudoField := by
  cases t with
  | qualified q t => cases q <;> rfl
  | quoted t =>
    cases t with
    | qualified q t => cases q <;> rfl
    | _ => rfl
  | _ => rfl

theorem blank_blank (t : TypeExpr) : t.blank.blank = t.blank := by
  induction t with
  | annotated t marks ih =>
    have hmark : ∀ m : Mark, m.blank.blank = m.blank := fun m => by cases m <;> rfl
    simp only [blank, ih, List.map_map, Function.comp_def, hmark]
  | ref t ih | qualified q t ih | listOf t ih | quoted t ih => simp only [blank, ih]
  | either a b iha ihb | mapOf a b iha ihb => simp only [blank, iha, ihb]
  | _ => rfl

/-! ### Alternatives -/

/-- The type that has some alternatives. -/
def joined : List TypeExpr → TypeExpr
  | [] => absent
  | t :: ts => ts.foldl either t

theorem union_eq (ts : List TypeExpr) : union ts = joined (ts.flatMap alternatives).eraseDups := by
  unfold union
  split
  · rename_i hnil
    rw [hnil]
    rfl
  · rename_i t ts' hts
    rw [hts]
    rfl

theorem alternatives_of_mem {t x : TypeExpr} (h : x ∈ t.alternatives) : x.alternatives = [x] := by
  induction t with
  | either a b iha ihb =>
    rw [alternatives, List.mem_append] at h
    exact h.elim iha ihb
  | _ =>
    cases List.mem_singleton.1 h
    rfl

theorem alternatives_foldl_either (t : TypeExpr) (ts : List TypeExpr) :
    (ts.foldl either t).alternatives = t.alternatives ++ ts.flatMap alternatives := by
  induction ts generalizing t with
  | nil => simp
  | cons u ts ih => simp [ih, alternatives]

theorem alternatives_ne_nil (t : TypeExpr) : t.alternatives ≠ [] := by
  induction t with
  | either a b iha ihb =>
    rw [alternatives]
    exact List.append_ne_nil_of_left_ne_nil iha _
  | _ => exact List.cons_ne_nil _ _

/-- The alternatives between two types are those of the one and of the other. -/
theorem alternatives_union (a b : TypeExpr) :
    (union [a, b]).alternatives = (a.alternatives ++ b.alternatives).eraseDups := by
  have hlist : ([a, b].flatMap alternatives).eraseDups = (a.alternatives ++ b.alternatives).eraseDups := by
    simp
  rw [union_eq, hlist]
  have hsingle : ∀ x ∈ (a.alternatives ++ b.alternatives).eraseDups, x.alternatives = [x] := by
    intro x hx
    have hmem : x ∈ (either a b).alternatives := List.mem_eraseDups.1 hx
    exact alternatives_of_mem hmem
  cases hts : (a.alternatives ++ b.alternatives).eraseDups with
  | nil =>
    have hempty : a.alternatives ++ b.alternatives = [] := List.eq_nil_iff_forall_not_mem.2 fun x hx => by
      rw [← List.mem_eraseDups, hts] at hx
      cases hx
    exact absurd (List.append_eq_nil_iff.1 hempty).1 a.alternatives_ne_nil
  | cons t ts =>
    rw [hts] at hsingle
    have hrest : ts.flatMap alternatives = ts.flatMap fun x => [x] :=
      List.flatMap_congr fun x hx => hsingle x (List.mem_cons_of_mem _ hx)
    rw [joined, alternatives_foldl_either, hsingle t List.mem_cons_self, hrest, List.flatMap_singleton']
    rfl

/-! ### Resolving blank expressions -/

/-- A resolved expression with blank headers: alternatives that differed in nothing else count once. -/
def merged : TypeExpr → TypeExpr
  | ref t => ref t.merged
  | either a b => union [a.merged, b.merged]
  | annotated t marks => annotated t.merged (marks.map Mark.blank)
  -- this type has not been resolved
  | qualified .initVar t => qualified .initVar t.blank
  | qualified q t => qualified q t.merged
  | listOf t => listOf t.merged
  | mapOf k v => mapOf k.merged v.merged
  | t => t.blank

/-- What is merged has no alternative twice. -/
theorem joined_merged (t : TypeExpr) : joined t.merged.alternatives.eraseDups = t.merged := by
  cases t with
  | either a b => rw [merged, alternatives_union, eraseDups_eraseDups, union_eq]; simp
  | qualified q t => cases q <;> rfl
  | _ => rfl

/-- The alternatives of a merged type are what becomes of its alternatives. -/
theorem alternatives_merged (t : TypeExpr) : t.merged.alternatives.eraseDups =
    (t.alternatives.flatMap fun x => x.merged.alternatives).eraseDups := by
  induction t with
  | either a b iha ihb =>
    rw [merged, alternatives_union, alternatives, List.flatMap_append, eraseDups_eraseDups]
    exact eraseDups_append_congr iha ihb
  | _ => simp [alternatives]

theorem merged_foldl_either (t : TypeExpr) (ts : List TypeExpr) : (ts.foldl either t).merged =
    joined ((t :: ts).flatMap fun x => x.merged.alternatives).eraseDups := by
  induction ts generalizing t with
  | nil => simp [joined_merged]
  | cons u ts ih =>
    have hmerged : (either t u).merged.alternatives = (t.merged.alternatives ++ u.merged.alternatives).eraseDups :=
      alternatives_union t.merged u.merged
    rw [List.foldl_cons, ih, List.flatMap_cons, hmerged, List.flatMap_cons, List.flatMap_cons, ← List.append_assoc]
    exact congrArg joined (eraseDups_append_congr (eraseDups_eraseDups _) rfl)

theorem merged_joined (ts : List TypeExpr) :
    (joined ts).merged = joined (ts.flatMap fun x => x.merged.alternatives).eraseDups := by
  cases ts with
  | nil => rfl
  | cons t ts => exact merged_foldl_either t ts

theorem merged_union (a b : TypeExpr) : (union [a, b]).merged = union [a.merged, b.merged] := by
  have hleft : ([a, b].flatMap alternatives).flatMap (fun x => x.merged.alternatives) =
      (a.alternatives.flatMap fun x => x.merged.alternatives) ++
        b.alternatives.flatMap fun x => x.merged.alternatives := by
    simp
  have hright : [a.merged, b.merged].flatMap alternatives = a.merged.alternatives ++ b.merged.alternatives := by
    simp
  rw [union_eq, merged_joined, eraseDups_flatMap, hleft, union_eq, hright]
  exact congrArg joined (eraseDups_append_congr a.alternatives_merged.symm b.alternatives_merged.symm)

/-- Resolving a blank expression gives the resolved expression, with blank headers. -/
theorem resolve?_blank (t : TypeExpr) (top : Bool) : t.blank.resolve? top = (t.resolve? top).map merged := by
  induction t generalizing top with
  | annotated t marks ih | ref t ih | listOf t ih => simp [blank, resolve?, ih, Function.comp_def, merged]
  | qualified q t ih => cases q <;> simp [blank, resolve?, ih, Function.comp_def, merged]
  | quoted t ih =>
    simp only [blank, resolve?, isMeaningful_blank, isTopOnly_blank]
    split
    · exact ih top
    · rfl
  | either a b iha ihb =>
    simp only [blank, resolve?, iha, ihb]
    cases a.resolve? false with
    | none => rfl
    | some a' =>
      cases b.resolve? false with
      | none => rfl
      | some b' => exact congrArg some (merged_union a' b').symm
  | mapOf k v ihk ihv =>
    simp only [blank, resolve?, ihk, ihv]
    cases k.resolve? false <;> cases v.resolve? false <;> rfl
  | _ => rfl

/-! ### Class variables among alternatives -/

/-- Whether an expression has several alternatives, behind any marks and quotes. -/
def isUnion : TypeExpr → Bool
  | either _ _ => true
  | annotated t _ | quoted t => t.isUnion
  | _ => false

@[simp] theorem isUnion_blank (t : TypeExpr) : t.blank.isUnion = t.isUnion := by
  induction t with
  | annotated t marks ih | quoted t ih => exact ih
  | _ => rfl

/-- Alternatives are left only where some have been written. -/
theorem isUnion_of_resolve? {t r : TypeExpr} {top : Bool} (h : t.resolve? top = some r) (hr : r.isUnion = true) :
    t.isUnion = true := by
  induction t generalizing top r with
  | annotated t marks ih =>
    obtain ⟨r', hr', rfl⟩ := Option.map_eq_some_iff.1 h
    exact ih hr' hr
  | quoted t ih =>
    rw [resolve?] at h
    exact ih (Option.ite_none_right_eq_some.1 h).2 hr
  | either a b => rfl
  | qualified q t =>
    cases q with
    | initVar =>
      cases h
      cases hr
    | _ =>
      obtain ⟨r', -, rfl⟩ := Option.map_eq_some_iff.1 h
      cases hr
  | ref t | listOf t =>
    obtain ⟨r', -, rfl⟩ := Option.map_eq_some_iff.1 h
    cases hr
  | mapOf k v =>
    simp only [resolve?, Option.bind_eq_bind, Option.bind_eq_some_iff, Option.pure_def, Option.some.injEq] at h
    obtain ⟨k', -, v', -, rfl⟩ := h
    cases hr
  | unknown => cases h
  | _ =>
    cases h
    cases hr

/-- Whether a type declares an attribute does not change when it is merged, unless its alternatives become one. -/
theorem isClassVar_merged {t : TypeExpr} (h : t.isUnion = true → t.merged.isClassVar = false) :
    t.merged.isClassVar = t.isClassVar := by
  induction t with
  | either a b => exact h rfl
  | annotated t marks ih => exact ih h
  | qualified q t => cases q <;> rfl
  | _ => rfl

end TypeExpr

/-! ### Declarations and shapes -/

def DataField.blank (f : DataField) : DataField := { f with tag := f.tag.map fun _ => [] }

def FieldDecl.blank (f : FieldDecl) : FieldDecl :=
  { f with annotation := f.annotation.blank, tag := f.tag.map fun _ => [] }

/-- A declaration with blank labels. -/
def ShapeDecl.blank (d : ShapeDecl) : ShapeDecl := { d with fields := d.fields.map FieldDecl.blank }

/-- A shape with blank labels. -/
def Shape.blank (s : Shape) : Shape :=
  { s with
    annotations := s.annotations.map fun a => (a.1, a.2.blank)
    dataFields := s.dataFields.map (·.map DataField.blank) }

/-- A schema with blank labels. -/
def Schema.blank (schema : Schema) : Schema := schema.map Shape.blank

/-- Leaving the labels blank is a change of fields. -/
def blanking : FieldChange where
  type _ t := t.blank
  isPseudo _ b := b
  tag _ tag := tag.map fun _ => []
  isPseudoField_type _ t := t.isPseudoField_blank

namespace Schema

variable {schema : Schema}

theorem shape?_blank (name : Text) : schema.blank.shape? name = (schema.shape? name).map Shape.blank :=
  shape?_change blanking name

theorem shapes_blank (ancestors : List Ancestor) :
    schema.blank.shapes ancestors = (schema.shapes ancestors).map Shape.blank :=
  shapes_change blanking ancestors

theorem lineage_blank (a : Ancestor) : schema.blank.lineage a = schema.lineage a :=
  lineage_change blanking a

/-- Declarations with blank labels give the schema with blank labels. -/
theorem ofDecls_blank (ds : List ShapeDecl) : ofDecls (ds.map ShapeDecl.blank) = (ofDecls ds).blank :=
  ofDecls_change blanking ds

/-! ### What does not depend on labels -/

/-- The names of the fields of a data class, or of a shape that descends from one. -/
def dataNames? (schema : Schema) (shape : Text) : Option (List Text) :=
  ((schema.shape? shape).bind Shape.dataFields).map fun fields =>
    (fields.filter fun f => !f.isPseudo).map DataField.name

/-- Schemas that differ in nothing but the labels of their fields. -/
structure Alike (schema schema' : Schema) : Prop where
  attribute? : ∀ shape name, schema.attribute? shape name = schema'.attribute? shape name
  metatype : ∀ shape, schema.metatype shape = schema'.metatype shape
  isMapping : ∀ shape, schema.isMapping shape = schema'.isMapping shape
  isList : ∀ shape, schema.isList shape = schema'.isList shape
  slots : ∀ shape, (schema.shape? shape).bind Shape.slots = (schema'.shape? shape).bind Shape.slots
  dataNames : ∀ shape, schema.dataNames? shape = schema'.dataNames? shape
  names : ∀ shape, (schema.fields shape).map Field.name = (schema'.fields shape).map Field.name

theorem Alike.symm {schema' : Schema} (h : schema.Alike schema') : schema'.Alike schema where
  attribute? shape name := (h.attribute? shape name).symm
  metatype shape := (h.metatype shape).symm
  isMapping shape := (h.isMapping shape).symm
  isList shape := (h.isList shape).symm
  slots shape := (h.slots shape).symm
  dataNames shape := (h.dataNames shape).symm
  names shape := (h.names shape).symm

theorem Alike.trans {schema' schema'' : Schema} (h : schema.Alike schema') (h' : schema'.Alike schema'') :
    schema.Alike schema'' where
  attribute? shape name := (h.attribute? shape name).trans (h'.attribute? shape name)
  metatype shape := (h.metatype shape).trans (h'.metatype shape)
  isMapping shape := (h.isMapping shape).trans (h'.isMapping shape)
  isList shape := (h.isList shape).trans (h'.isList shape)
  slots shape := (h.slots shape).trans (h'.slots shape)
  dataNames shape := (h.dataNames shape).trans (h'.dataNames shape)
  names shape := (h.names shape).trans (h'.names shape)

/-- In no shape that is described by its annotations, several alternatives become one attribute of the shape when their
labels are left blank. -/
def ClassVarsApart (schema : Schema) : Prop :=
  ∀ shape s, schema.shape? shape = some s → s.dataFields = none → s.slots = none → schema.resolvable shape = true →
    ∀ a ∈ schema.writtenHints shape, a.2.2.isUnion = true → ∀ r, a.2.2.blank.resolve? a.2.1 = some r →
      r.isClassVar = false

theorem openAnnotations_blank (s : Shape) :
    openAnnotations s.blank = (openAnnotations s).map fun a => (a.1, a.2.1, a.2.2.blank) :=
  openAnnotations_change blanking s

theorem writtenHints_blank (shape : Text) :
    schema.blank.writtenHints shape = (schema.writtenHints shape).map fun a => (a.1, a.2.1, a.2.2.blank) :=
  writtenHints_change blanking shape

theorem resolvable_blank (shape : Text) : schema.blank.resolvable shape = schema.resolvable shape := by
  unfold resolvable
  rw [lineage_blank, shapes_blank, List.all_map]
  refine List.all_congr rfl fun s => ?_
  simp only [Function.comp_apply, openAnnotations_blank, List.all_map, Function.comp_def,
    TypeExpr.resolve?_blank, Option.isSome_map]

theorem classVarsApart_blank : schema.blank.ClassVarsApart ↔ schema.ClassVarsApart := by
  unfold ClassVarsApart
  refine forall_congr' fun shape => ?_
  rw [shape?_blank, resolvable_blank, writtenHints_blank]
  cases schema.shape? shape with
  | none => simp
  | some s =>
    have hdata : s.blank.dataFields = none ↔ s.dataFields = none := by simp [Shape.blank]
    have hslots : s.blank.slots = s.slots := rfl
    simp only [Option.map_some, Option.some.injEq, forall_eq', hdata, hslots, List.forall_mem_map,
      TypeExpr.isUnion_blank, TypeExpr.blank_blank]

/-- Whether an annotation declares an attribute of the shape does not depend on labels. -/
theorem isClassVar_settled {t : TypeExpr} {resolvable top : Bool}
    (ht : resolvable = true → t.isUnion = true → ∀ r, t.blank.resolve? top = some r → r.isClassVar = false) :
    (settled resolvable (top, t.blank)).isClassVar = (settled resolvable (top, t)).isClassVar := by
  cases resolvable with
  | false => exact t.isClassVar_blank
  | true =>
    have ht := ht rfl
    simp only [settled, if_true, TypeExpr.resolve?_blank] at ht ⊢
    cases hr : t.resolve? top with
    | none => exact t.isClassVar_blank
    | some r =>
      rw [hr] at ht
      exact TypeExpr.isClassVar_merged fun hunion => ht (TypeExpr.isUnion_of_resolve? hr hunion) _ rfl

theorem dataFields_blank (shape : Text) : (schema.blank.shape? shape).bind Shape.dataFields =
    ((schema.shape? shape).bind Shape.dataFields).map (·.map DataField.blank) :=
  dataFields_change blanking shape

theorem slots_blank (shape : Text) :
    (schema.blank.shape? shape).bind Shape.slots = (schema.shape? shape).bind Shape.slots :=
  slots_change blanking shape

theorem names_blank (h : schema.ClassVarsApart) (shape : Text) :
    (schema.fields shape).map Field.name = (schema.blank.fields shape).map Field.name := by
  have hdata' : (schema.blank.shape? shape).bind Shape.dataFields = _ := dataFields_blank shape
  have hslots' : (schema.blank.shape? shape).bind Shape.slots = _ := slots_blank shape
  rw [names_fields, names_fields]
  rcases hdata : (schema.shape? shape).bind Shape.dataFields with _ | fields
  · rw [hdata, Option.map_none] at hdata'
    rcases hslots : (schema.shape? shape).bind Shape.slots with _ | names
    · rw [declared_of_isAnnotated ⟨hdata, hslots⟩, declared_of_isAnnotated ⟨hdata', hslots'.trans hslots⟩,
        writtenHints_blank, resolvable_blank, List.filter_map, List.map_map, List.map_map, List.map_map]
      -- the same annotations are left out
      refine congrArg _ (List.filter_congr fun a ha => congrArg not (isClassVar_settled ?_).symm)
      cases hs : schema.shape? shape with
      | none =>
        rw [writtenHints_of_none hs] at ha
        cases ha
      | some s =>
        rw [hs] at hdata hslots
        exact fun hresolvable => h shape s hs hdata hslots hresolvable a ha
    · rw [declared_of_slots hdata hslots, declared_of_slots hdata' (hslots'.trans hslots)]
  · rw [hdata, Option.map_some] at hdata'
    rw [declared_of_dataFields hdata, declared_of_dataFields hdata', List.filter_map, List.map_map, List.map_map,
      List.map_map]
    rfl

/-- A schema is like the one with blank labels. -/
theorem alike_blank (h : schema.ClassVarsApart) : schema.Alike schema.blank where
  attribute? shape name := by
    unfold Schema.attribute?
    rw [lineage_blank]
    congr 1
    funext a
    cases a with
    | shape n =>
      simp only [attributes, shape?_blank, Option.map_map]
      rfl
    | _ => rfl
  metatype shape := by
    unfold Schema.metatype
    rw [lineage_blank, shape?_blank, Option.map_map]
    rfl
  isMapping shape := by
    unfold Schema.isMapping
    rw [lineage_blank]
  isList shape := by
    unfold Schema.isList
    rw [lineage_blank]
  slots shape := (slots_blank shape).symm
  dataNames shape := by
    rw [dataNames?, dataNames?, dataFields_blank]
    cases (schema.shape? shape).bind Shape.dataFields with
    | none => rfl
    | some fields =>
      simp only [Option.map_some, List.filter_map, List.map_map]
      rfl
  names := names_blank h

/-- Schemas that are the same with blank labels are alike, unless with these labels several alternatives become one
attribute of a shape. -/
theorem alike_of_blank_eq {schema' : Schema} (hblank : schema.blank = schema'.blank) (h : schema.ClassVarsApart) :
    schema.Alike schema' := by
  have h' : schema'.ClassVarsApart := by rwa [← classVarsApart_blank, ← hblank, classVarsApart_blank]
  have hright := (alike_blank h').symm
  rw [← hblank] at hright
  exact (alike_blank h).trans hright

end Schema

end RecordPrint
