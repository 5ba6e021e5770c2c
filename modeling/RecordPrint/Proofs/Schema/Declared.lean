import RecordPrint.Proofs.Entries
import RecordPrint.Schema.Field

/-!
# Declared schemas

What is known of the shapes of a schema that has been made by declarations, each with bases that were there before.

* `Schema.Declared` — such schemas; `Shape.Sound` — what each of their shapes is known to keep;
* `declared_of_dataFields`, `declared_of_slots`, `declared_of_isAnnotated` — what a shape of each kind declares;
* `nodup_fields` — no shape has two fields of one name;
* `Declared.slots_getElem` — where the name of an item of a tuple still leads to an item, this is the item of the name.
-/

namespace RecordPrint

variable {schema : Schema}

/-! ### Lineages -/

/-- A lineage that is merged from others holds nothing else. -/
theorem mem_of_mem_mergeLineages {fuel : Nat} {lists : List (List Ancestor)} {a : Ancestor}
    (h : a ∈ mergeLineages fuel lists) : ∃ l ∈ lists, a ∈ l := by
  induction fuel generalizing lists with
  | zero => cases h
  | succ fuel ih =>
    rw [mergeLineages] at h
    split at h
    · cases h
    · rename_i b hb
      rcases List.mem_cons.1 h with rfl | h
      · obtain ⟨l, hl, hhead⟩ := List.mem_filterMap.1 (List.mem_of_find?_eq_some hb)
        exact ⟨l, hl, List.mem_of_mem_head? hhead⟩
      · obtain ⟨l', hl', ha⟩ := ih h
        obtain ⟨l, hl, rfl⟩ := List.mem_map.1 hl'
        refine ⟨l, hl, ?_⟩
        split at ha
        · exact List.mem_of_mem_tail ha
        · exact ha

/-- A declaration that a schema can take: its name is new, its bases are there, and if it is one of a tuple, its items
have distinct names, none of which is a hidden one. -/
structure ShapeDecl.Sound (schema : Schema) (d : ShapeDecl) : Prop where
  fresh : schema.shape? d.name = none
  bases : ∀ name, .shape name ∈ d.bases → (schema.shape? name).isSome
  slots : d.kind = .tuple → (d.fields.map FieldDecl.name).Nodup ∧ ∀ f ∈ d.fields, f.name.head? ≠ some (.char '_')

namespace Schema

/-- A schema made by declarations, each of which the schema so far can take. -/
inductive Declared : Schema → Prop where
  | empty : Declared []
  | declare {schema : Schema} {d : ShapeDecl} : Declared schema → d.Sound schema → Declared (schema.declare d)

theorem shape?_declare (d : ShapeDecl) (name : Text) : (schema.declare d).shape? name =
    (schema.shape? name).or (if d.name = name then some (d.toShape schema) else none) := by
  rw [declare, shape?, List.find?_append, ← shape?]
  by_cases h : d.name = name <;> simp [List.find?, ShapeDecl.toShape, h]

/-- A shape that is there is not hidden by a later declaration. -/
theorem shape?_declare_of_isSome {name : Text} (h : (schema.shape? name).isSome) (d : ShapeDecl) :
    (schema.declare d).shape? name = schema.shape? name := by
  obtain ⟨s, hs⟩ := Option.isSome_iff_exists.1 h
  rw [shape?_declare, hs]
  rfl

theorem shapes_declare {ancestors : List Ancestor} (h : ∀ name, .shape name ∈ ancestors → (schema.shape? name).isSome)
    (d : ShapeDecl) : (schema.declare d).shapes ancestors = schema.shapes ancestors := by
  refine List.filterMap_congr fun a ha => ?_
  cases a with
  | shape name => exact shape?_declare_of_isSome (h name ha) d
  | dict | list | tabular => rfl

theorem mem_shapes {ancestors : List Ancestor} {s : Shape} :
    s ∈ schema.shapes ancestors ↔ ∃ name, .shape name ∈ ancestors ∧ schema.shape? name = some s := by
  rw [shapes, List.mem_filterMap]
  constructor
  · rintro ⟨a, ha, hs⟩
    cases a with
    | shape name => exact ⟨name, ha, hs⟩
    | dict | list | tabular => cases hs
  · rintro ⟨name, hname, hs⟩
    exact ⟨.shape name, hname, hs⟩

theorem lineage_of_shape? {name : Text} {s : Shape} (h : schema.shape? name = some s) :
    schema.lineage (.shape name) = s.lineage := by
  rw [lineage, h]
  rfl

theorem shapes_subset {l l' : List Ancestor} (h : l ⊆ l') : schema.shapes l ⊆ schema.shapes l' := by
  intro s hs
  obtain ⟨name, hname, hs⟩ := mem_shapes.1 hs
  exact mem_shapes.2 ⟨name, h hname, hs⟩

end Schema

/-! ### Shapes -/

/-- What a shape of a declared schema keeps: its ancestors are shapes of the schema, it has the items of the first
tuple among itself and them, and the fields of a data class and the items of a tuple have distinct names. -/
structure Shape.Sound (schema : Schema) (s : Shape) : Prop where
  lineage : ∀ name, .shape name ∈ s.lineage → (schema.shape? name).isSome
  dataFields : ∀ fields, s.dataFields = some fields → (fields.map DataField.name).Nodup
  slots : s.slots = (schema.shapes s.lineage).findSome? Shape.ownSlots
  /-- The names of its own items, each of which leads to the item. -/
  ownSlots : ∀ names, s.ownSlots = some names → names.Nodup ∧ ∀ name ∈ names,
    name.head? ≠ some (.char '_') ∧ (s.attributes.lookup name).isSome ∧
      ∀ index, s.attributes.lookup name = some (.slot index) → names[index]? = some name
  attributes : s.ownSlots = none → ∀ name index, s.attributes.lookup name ≠ some (.slot index)

theorem Shape.Sound.declare {s : Shape} (h : s.Sound schema) (d : ShapeDecl) : s.Sound (schema.declare d) where
  lineage name hname := by
    rw [Schema.shape?_declare_of_isSome (h.lineage name hname)]
    exact h.lineage name hname
  dataFields := h.dataFields
  slots := by rw [Schema.shapes_declare h.lineage, h.slots]
  ownSlots := h.ownSlots
  attributes := h.attributes

namespace ShapeDecl

variable {d : ShapeDecl}

theorem isSome_of_mem_lineage (hschema : ∀ name s, schema.shape? name = some s → s.Sound schema) (hd : d.Sound schema)
    {name : Text} (h : .shape name ∈ (d.lineage schema).tail) : (schema.shape? name).isSome := by
  rw [lineage, List.tail_cons] at h
  split at h
  · simp at h
  · obtain ⟨l, hl, hname⟩ := mem_of_mem_mergeLineages h
    rcases List.mem_append.1 hl with hl | hl
    · -- the lineage of a base
      obtain ⟨base, hbase, rfl⟩ := List.mem_map.1 hl
      cases base with
      | shape n =>
        obtain ⟨s, hs⟩ := Option.isSome_iff_exists.1 (hd.bases n hbase)
        rw [Schema.lineage_of_shape? hs] at hname
        exact (hschema n s hs).lineage name hname
      | dict | list | tabular => simp [Schema.lineage] at hname
    · -- the bases themselves
      rw [List.mem_singleton.1 hl] at hname
      exact hd.bases name hname

/-- The fields of several data classes, collected one after the other. -/
def collected (lists : List (List DataField)) : List (Text × DataField) :=
  lists.foldl (fun acc fs => putEntries acc (fs.map fun f => (f.name, f))) []

/-- Collected fields have distinct names, under which they are collected. -/
theorem nodup_collected (lists : List (List DataField)) :
    ((collected lists).map Prod.fst).Nodup ∧ ∀ e ∈ collected lists, e.2.name = e.1 := by
  refine ⟨nodup_foldl_putEntries _ lists, fun e he => ?_⟩
  obtain ⟨fs, -, he⟩ := mem_foldl_putEntries _ lists he
  have hname : ∀ e ∈ fs.map (fun f => (f.name, f)), e.2.name = e.1 := by simp
  exact forall_mem_putEntries (P := fun e => e.2.name = e.1) (by simp) hname e he

/-- The names of collected fields are those that they are collected under. -/
theorem names_collected (lists : List (List DataField)) :
    ((collected lists).map Prod.snd).map DataField.name = (collected lists).map Prod.fst := by
  rw [List.map_map]
  exact List.map_congr_left fun e he => (nodup_collected lists).2 e he

/-- The fields of the data classes that a declared shape descends from, the farthest first. -/
def inherited (schema : Schema) (d : ShapeDecl) : List (List DataField) :=
  (schema.shapes (d.lineage schema).tail).reverse.filterMap Shape.dataFields

/-- The fields that a declaration gives a data class. -/
def ownData (d : ShapeDecl) : List DataField := d.fields.map fun f => ⟨f.name, f.annotation.isPseudoField, f.tag⟩

theorem dataFields_of_data (h : d.kind = .data) :
    d.dataFields schema = some ((collected (d.inherited schema ++ [d.ownData])).map Prod.snd) := by
  rw [collected, List.foldl_append, dataFields, if_pos h]
  rfl

/-- Another shape has the fields of a data class that it descends from. -/
theorem exists_of_dataFields (h : d.kind ≠ .data) {fields : List DataField} (hfields : d.dataFields schema = some fields) :
    ∃ s ∈ schema.shapes (d.lineage schema).tail, s.dataFields = some fields := by
  rw [dataFields, if_neg h] at hfields
  obtain ⟨s, hs, hown⟩ := List.exists_of_findSome?_eq_some hfields
  refine ⟨s, hs, ?_⟩
  unfold Shape.ownDataFields at hown
  split at hown
  · exact hown
  · cases hown

theorem nodup_dataFields (hschema : ∀ name s, schema.shape? name = some s → s.Sound schema) {fields : List DataField}
    (h : d.dataFields schema = some fields) : (fields.map DataField.name).Nodup := by
  by_cases hkind : d.kind = .data
  · rw [dataFields_of_data hkind] at h
    cases h
    rw [names_collected]
    exact (nodup_collected _).1
  · obtain ⟨s, hs, hfields⟩ := exists_of_dataFields hkind h
    obtain ⟨name, -, hs⟩ := Schema.mem_shapes.1 hs
    exact (hschema name s hs).dataFields fields hfields

theorem slot_of_mem_attributes {name : Text} {index : Nat} (h : (name, .slot index) ∈ d.attributes) :
    d.kind = .tuple ∧ (d.fields.map FieldDecl.name)[index]? = some name := by
  have hfields : (name, .slot index) ∈ d.fieldAttributes := by
    simp only [attributes, List.mem_append, List.mem_map] at h
    rcases h with ((((h | h) | h) | h) | h)
    · simp at h
    · split at h <;> simp at h
    · cases ht : d.tabular with
      | none => simp [ht] at h
      | some t =>
        obtain ⟨headers, row⟩ := t
        cases headers <;> cases row <;> simp [ht] at h
    · exact h
    · simp at h
  unfold fieldAttributes at hfields
  split at hfields
  · rename_i hkind
    obtain ⟨i, hi, heq⟩ := List.mem_mapIdx.1 hfields
    cases heq
    exact ⟨hkind, by simp [hi]⟩
  · cases hfields
  · obtain ⟨f, -, hf⟩ := List.mem_filterMap.1 hfields
    cases hdefault : f.default? <;> simp [hdefault] at hf

theorem isSome_lookup_attributes (hkind : d.kind = .tuple) {name : Text} (h : name ∈ d.fields.map FieldDecl.name) :
    (d.attributes.lookup name).isSome := by
  obtain ⟨index, hindex, rfl⟩ := List.mem_iff_getElem.1 h
  rw [List.length_map] at hindex
  have hfields : ((d.fields.map FieldDecl.name)[index], ClassAttribute.slot index) ∈ d.fieldAttributes := by
    simp only [fieldAttributes, hkind, List.mem_mapIdx]
    exact ⟨index, hindex, by simp⟩
  have hattributes : ((d.fields.map FieldDecl.name)[index], ClassAttribute.slot index) ∈ d.attributes := by
    simp only [attributes, List.mem_append]
    exact .inl (.inr hfields)
  exact isSome_lookup hattributes

theorem ownSlots_toShape : (d.toShape schema).ownSlots =
    if d.kind = .tuple then some (d.fields.map FieldDecl.name) else none := by
  have hown : (d.toShape schema).ownSlots = if d.kind = .tuple then d.slots schema else none := rfl
  rw [hown]
  by_cases hkind : d.kind = .tuple
  · rw [if_pos hkind, if_pos hkind, slots, if_pos hkind]
  · rw [if_neg hkind, if_neg hkind]

/-- A declaration that a schema can take gives a sound shape. -/
theorem sound_toShape (hschema : ∀ name s, schema.shape? name = some s → s.Sound schema) (hd : d.Sound schema) :
    (d.toShape schema).Sound (schema.declare d) := by
  have hself : (schema.declare d).shape? d.name = some (d.toShape schema) := by
    rw [Schema.shape?_declare, hd.fresh]
    simp
  have hbehind : ∀ name, .shape name ∈ (d.lineage schema).tail → (schema.shape? name).isSome :=
    fun name => isSome_of_mem_lineage hschema hd
  have hlineage : d.lineage schema = .shape d.name :: (d.lineage schema).tail := rfl
  have hshapes : (schema.declare d).shapes (d.lineage schema) =
      d.toShape schema :: schema.shapes (d.lineage schema).tail := by
    rw [← Schema.shapes_declare hbehind d, hlineage]
    simp only [Schema.shapes, List.filterMap_cons, hself, List.tail_cons]
  constructor
  · intro name hname
    have hmem : .shape name ∈ d.lineage schema := hname
    rw [hlineage] at hmem
    rcases List.mem_cons.1 hmem with heq | hmem
    · cases heq
      rw [hself]
      rfl
    · rw [Schema.shape?_declare_of_isSome (hbehind name hmem)]
      exact hbehind name hmem
  · intro fields hfields
    exact nodup_dataFields hschema hfields
  · have hslots : (d.toShape schema).slots = d.slots schema := rfl
    have hancestors : (d.toShape schema).lineage = d.lineage schema := rfl
    rw [hslots, hancestors, hshapes, List.findSome?_cons, ownSlots_toShape, slots]
    by_cases hkind : d.kind = .tuple
    · simp only [if_pos hkind]
    · simp only [if_neg hkind]
  · intro names hnames
    rw [ownSlots_toShape] at hnames
    by_cases hkind : d.kind = .tuple
    · rw [if_pos hkind] at hnames
      cases hnames
      refine ⟨(hd.slots hkind).1, fun name hname => ⟨?_, isSome_lookup_attributes hkind hname, fun index h => ?_⟩⟩
      · obtain ⟨f, hf, rfl⟩ := List.mem_map.1 hname
        exact (hd.slots hkind).2 f hf
      · exact (slot_of_mem_attributes (mem_of_lookup h)).2
    · rw [if_neg hkind] at hnames
      cases hnames
  · intro hnone name index h
    have hkind : d.kind = .tuple := (slot_of_mem_attributes (mem_of_lookup h)).1
    rw [ownSlots_toShape, if_pos hkind] at hnone
    cases hnone

end ShapeDecl

namespace Schema

/-- The shapes of a declared schema are sound. -/
theorem Declared.sound (h : schema.Declared) {name : Text} {s : Shape} (hs : schema.shape? name = some s) :
    s.Sound schema := by
  induction h generalizing name s with
  | empty => cases hs
  | @declare schema d _ hd ih =>
    rw [shape?_declare] at hs
    cases hold : schema.shape? name with
    | some s' =>
      rw [hold] at hs
      cases hs
      exact (ih hold).declare d
    | none =>
      rw [hold] at hs
      by_cases hname : d.name = name
      · simp only [Option.none_or, if_pos hname, Option.some.injEq] at hs
        subst hs
        exact ShapeDecl.sound_toShape (fun _ _ => ih) hd
      · simp [hname] at hs

/-! ### Fields -/

/-- An annotation as it is described: resolved if all of the shape can be, and otherwise as it was written. -/
def settled (resolvable : Bool) (a : Bool × TypeExpr) : TypeExpr :=
  if resolvable then (a.2.resolve? a.1).getD a.2 else a.2

theorem hints_eq (shape : Text) : schema.hints shape =
    (schema.writtenHints shape).map fun a => (a.1, settled (schema.resolvable shape) a.2) :=
  rfl

theorem nodup_writtenHints (shape : Text) : ((schema.writtenHints shape).map Prod.fst).Nodup :=
  nodup_foldl_putEntries openAnnotations _

/-- An annotation that was written is the last one of its name in a shape of the lineage. -/
theorem exists_of_mem_writtenHints {shape : Text} {a : Text × Bool × TypeExpr} (h : a ∈ schema.writtenHints shape) :
    ∃ s ∈ schema.shapes (schema.lineage (.shape shape)), a ∈ putEntries [] (openAnnotations s) := by
  obtain ⟨s, hs, ha⟩ := mem_foldl_putEntries openAnnotations _ h
  exact ⟨s, List.mem_reverse.1 hs, ha⟩

theorem writtenHints_of_none {shape : Text} (h : schema.shape? shape = none) : schema.writtenHints shape = [] := by
  have hshapes : schema.shapes (schema.lineage (.shape shape)) = [] := by
    simp [lineage, shapes, h]
  rw [writtenHints, hshapes]
  rfl

theorem names_fields (shape : Text) : (schema.fields shape).map Field.name = (schema.declared shape).map Prod.fst := by
  rw [fields, List.map_map]
  rfl

/-- A data class declares the fields collected for it that do not only look like fields. -/
theorem declared_of_dataFields {shape : Text} {fields : List DataField}
    (h : (schema.shape? shape).bind Shape.dataFields = some fields) :
    schema.declared shape = (fields.filter fun f => !f.isPseudo).map fun f => (f.name, f.tag) := by
  obtain ⟨s, hs, hdata⟩ := Option.bind_eq_some_iff.1 h
  simp only [declared, hs, hdata]

/-- A tuple declares its items. -/
theorem declared_of_slots {shape : Text} {names : List Text} (hdata : (schema.shape? shape).bind Shape.dataFields = none)
    (h : (schema.shape? shape).bind Shape.slots = some names) : schema.declared shape = names.map (·, none) := by
  obtain ⟨s, hs, hslots⟩ := Option.bind_eq_some_iff.1 h
  rw [hs, Option.bind_some] at hdata
  simp only [declared, hs, hdata, hslots]

/-- A shape that is no data class and no tuple is described by its annotations. -/
def IsAnnotated (schema : Schema) (shape : Text) : Prop :=
  (schema.shape? shape).bind Shape.dataFields = none ∧ (schema.shape? shape).bind Shape.slots = none

/-- Such a shape declares what is annotated in it and is no class variable. -/
theorem declared_of_isAnnotated {shape : Text} (h : schema.IsAnnotated shape) : schema.declared shape =
    ((schema.writtenHints shape).filter fun a => !(settled (schema.resolvable shape) a.2).isClassVar).map
      fun a => (a.1, none) := by
  obtain ⟨hdata, hslots⟩ := h
  cases hs : schema.shape? shape with
  | none =>
    rw [declared, hs, writtenHints_of_none hs]
    rfl
  | some s =>
    rw [hs, Option.bind_some] at hdata hslots
    simp only [declared, hs, hdata, hslots, hints_eq, List.filter_map, List.map_map]
    rfl

/-- The items of a tuple, or of a shape that descends from one, have distinct names. -/
theorem Declared.nodup_slots (h : schema.Declared) {shape : Text} {s : Shape} (hs : schema.shape? shape = some s)
    {names : List Text} (hnames : s.slots = some names) :
    names.Nodup ∧ ∀ name ∈ names, name.head? ≠ some (.char '_') := by
  rw [(h.sound hs).slots] at hnames
  obtain ⟨p, hp, hown⟩ := List.exists_of_findSome?_eq_some hnames
  obtain ⟨n, -, hn⟩ := mem_shapes.1 hp
  obtain ⟨hnodup, hall⟩ := (h.sound hn).ownSlots names hown
  exact ⟨hnodup, fun name hname => (hall name hname).1⟩

/-- No shape has two fields of one name. -/
theorem Declared.nodup_fields (h : schema.Declared) (shape : Text) : ((schema.fields shape).map Field.name).Nodup := by
  rw [names_fields]
  rcases hdata : (schema.shape? shape).bind Shape.dataFields with _ | fields
  · rcases hslots : (schema.shape? shape).bind Shape.slots with _ | names
    · rw [declared_of_isAnnotated ⟨hdata, hslots⟩, List.map_map]
      exact (nodup_writtenHints shape).sublist (List.filter_sublist.map _)
    · obtain ⟨s, hs, hown⟩ := Option.bind_eq_some_iff.1 hslots
      rw [declared_of_slots hdata hslots, List.map_map]
      simpa [Function.comp_def] using (h.nodup_slots hs hown).1
  · obtain ⟨s, hs, hown⟩ := Option.bind_eq_some_iff.1 hdata
    rw [declared_of_dataFields hdata, List.map_map]
    exact ((h.sound hs).dataFields fields hown).sublist (List.filter_sublist.map _)

end Schema

end RecordPrint
