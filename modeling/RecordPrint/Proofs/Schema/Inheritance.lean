import RecordPrint.Proofs.Schema.Lineages

/-!
# Inherited fields

The fields of a shape with a single base: those of the base come first and keep their order, and behind them stand those
that the shape declares anew. For data classes this is so because the fields of a base are collected with all that they
have been collected from, for other annotated classes because annotations are put into each other in the order of the
lineage. Both need that the shapes agree on what is a field.

* `ShapeKind.takes` — what a shape takes its annotations for; `AgreeOnFields` — shapes that agree on it;
* `Accepted.names_dataFields_of_base` — the names collected for a data class are those collected for its base and its own;
* `Accepted.exists_takes` — a field of a data class is one for a data class of its lineage;
* `names_of_base` — the fields of a shape and those of its single base.
-/

namespace RecordPrint

variable {schema : Schema}

/-! ### What annotations are taken for -/

/-- Whether a shape takes an annotation for a field. A data class looks at the annotation as it is written, another shape
at what it is resolved to. -/
def ShapeKind.isField : ShapeKind → TypeExpr → Bool
  | .data, t => !t.isPseudoField
  | _, t => !(Schema.settled true (true, t)).isClassVar

/-- The names that are annotated in a shape, each with whether it is taken for a field. A name that is annotated again
keeps its place, and the last annotation counts. -/
def ShapeKind.takes (kind : ShapeKind) (annotations : List (Text × TypeExpr)) : List (Text × Bool) :=
  putEntries [] (annotations.map fun a => (a.1, kind.isField a.2))

def Shape.takes (s : Shape) : List (Text × Bool) := s.kind.takes s.annotations

/-- No name is a field for one of the shapes, but not for another one that annotates it. -/
def AgreeOnFields (shapes : List Shape) : Prop :=
  ∀ s ∈ shapes, ∀ s' ∈ shapes, ∀ a ∈ s.takes, ∀ a' ∈ s'.takes, a.1 = a'.1 → a.2 = a'.2

instance (shapes : List Shape) : Decidable (AgreeOnFields shapes) :=
  inferInstanceAs (Decidable (∀ s ∈ shapes, ∀ s' ∈ shapes, ∀ a ∈ s.takes, ∀ a' ∈ s'.takes, a.1 = a'.1 → a.2 = a'.2))

/-- What a declared shape takes its own annotations for. -/
def ShapeDecl.takes (d : ShapeDecl) : List (Text × Bool) := d.kind.takes (d.fields.map fun f => (f.name, f.annotation))

/-- The shapes of its own kind among a declared shape and its ancestors. -/
def ShapeDecl.relatives (schema : Schema) (d : ShapeDecl) : List Shape :=
  (schema.shapes (d.lineage schema)).filter fun s => s.kind = d.kind

/-- The fields that a shape declares itself, in the order of their declaration, but not those of some names. -/
def ShapeDecl.newFields (d : ShapeDecl) (inherited : List Text) : List Text :=
  (d.takes.filter fun a => a.2 && !inherited.contains a.1).map Prod.fst

/-- Whether a name is a field for one of some shapes. -/
def IsFieldIn (shapes : List Shape) (name : Text) : Bool := shapes.any fun s => s.takes.contains (name, true)

/-- Where shapes agree, an annotated name is a field for all of them or for none. -/
theorem AgreeOnFields.isFieldIn {shapes : List Shape} (h : AgreeOnFields shapes) {s : Shape} (hs : s ∈ shapes)
    {a : Text × Bool} (ha : a ∈ s.takes) : IsFieldIn shapes a.1 = a.2 := by
  rw [Bool.eq_iff_iff, IsFieldIn, List.any_eq_true]
  constructor
  · rintro ⟨s', hs', hmem⟩
    exact h s hs s' hs' a ha (a.1, true) (List.contains_iff_mem.1 hmem) rfl
  · intro htrue
    refine ⟨s, hs, List.contains_iff_mem.2 ?_⟩
    rwa [← htrue]

/-- Some names and others that are put behind them, of which only the fields are kept. -/
theorem filter_eraseDups_append (p : Text → Bool) {names : List Text} (hnames : names.Nodup) (more : List Text) :
    (names ++ more).eraseDups.filter p =
      names.filter p ++ more.eraseDups.filter fun name => p name && !(names.filter p).contains name := by
  have hremove : (more.filter p).removeAll (names.filter p) =
      more.filter fun name => p name && !(names.filter p).contains name := by
    rw [List.removeAll, List.filter_filter]
    exact List.filter_congr fun name _ => Bool.and_comm _ _
  rw [← eraseDups_filter, List.filter_append, List.eraseDups_append, hremove,
    eraseDups_of_nodup (hnames.filter p), eraseDups_filter]

theorem map_fst_takes (kind : ShapeKind) (annotations : List (Text × TypeExpr)) :
    (kind.takes annotations).map Prod.fst = (annotations.map Prod.fst).eraseDups := by
  have hnil : (([] : List (Text × Bool)).map Prod.fst).Nodup := List.nodup_nil
  rw [ShapeKind.takes, map_fst_putEntries hnil, List.map_nil, List.nil_append, List.map_map]
  rfl

/-- The fields of a shape, if its names are those of its base and its own ones, and it agrees with its base on which of
them are fields. -/
theorem ShapeDecl.filter_append_own (d : ShapeDecl) {p : Text → Bool} {names : List Text} (hnames : names.Nodup)
    (hp : ∀ a ∈ d.takes, p a.1 = a.2) :
    (names ++ d.fields.map FieldDecl.name).eraseDups.filter p = names.filter p ++ d.newFields (names.filter p) := by
  have hown : d.fields.map FieldDecl.name = (d.fields.map fun f => (f.name, f.annotation)).map Prod.fst := by
    rw [List.map_map]
    rfl
  rw [filter_eraseDups_append p hnames, newFields, takes, hown, ← map_fst_takes d.kind, List.filter_map]
  congr 2
  refine List.filter_congr fun a ha => ?_
  simp only [Function.comp_apply, hp a ha]

theorem ShapeDecl.annotations_toShape {d : ShapeDecl} (h : d.kind ≠ .dictionary) :
    (d.toShape schema).annotations = d.fields.map fun f => (f.name, f.annotation) := by
  rw [toShape, annotations, if_neg h]

theorem ShapeDecl.takes_toShape {d : ShapeDecl} (h : d.kind ≠ .dictionary) : (d.toShape schema).takes = d.takes := by
  rw [Shape.takes, annotations_toShape h]
  rfl

/-! ### Data classes -/

namespace ShapeDecl

variable {d : ShapeDecl}

theorem names_collected_eq (lists : List (List DataField)) :
    ((collected lists).map Prod.snd).map DataField.name = (lists.flatten.map DataField.name).eraseDups := by
  have hnames : ∀ fs : List DataField, (fs.map fun f => (f.name, f)).map Prod.fst = fs.map DataField.name := by
    intro fs
    rw [List.map_map]
    rfl
  rw [names_collected, collected, map_fst_foldl_putEntries, List.map_flatten, List.flatMap_def]
  simp only [hnames]

/-- What a data class collects of its own annotations it takes for just what it takes them for. -/
theorem mem_takes_of_ownData (hkind : d.kind = .data) {e : Text × DataField}
    (he : e ∈ putEntries [] (d.ownData.map fun f => (f.name, f))) : (e.1, !e.2.isPseudo) ∈ d.takes := by
  have htakes : d.takes = (putEntries [] (d.ownData.map fun f => (f.name, f))).map fun e => (e.1, !e.2.isPseudo) := by
    have hmap := putEntries_map (fun _ (f : DataField) => !f.isPseudo) [] (d.ownData.map fun f => (f.name, f))
    rw [← hmap, takes, hkind]
    simp only [ShapeKind.takes, ownData, List.map_map]
    rfl
  rw [htakes]
  exact List.mem_map_of_mem he

end ShapeDecl

namespace Accepted

variable {ds : List ShapeDecl} {d : ShapeDecl}

/-- What a data class, or a shape that descends from one, takes for a field or for something else is taken for it by a
data class of its lineage. -/
theorem exists_takes (h : Accepted ds) {name : Text} {s : Shape} (hs : (Schema.ofDecls ds).shape? name = some s) :
    ∀ fs, s.dataFields = some fs → ∀ f ∈ fs,
      ∃ s' ∈ (Schema.ofDecls ds).shapes s.lineage, s'.kind = .data ∧ (f.name, !f.isPseudo) ∈ s'.takes := by
  refine h.shape_induction (P := fun schema s => ∀ fs, s.dataFields = some fs → ∀ f ∈ fs,
      ∃ s' ∈ schema.shapes s.lineage, s'.kind = .data ∧ (f.name, !f.isPseudo) ∈ s'.takes) ?_ ?_ hs
  · intro schema s d hsound hall
    rw [Schema.shapes_declare hsound.lineage]
    exact hall
  · intro ds d h hd ih fs hfs f hf
    have hshape := h.shape? hd
    -- what comes from a shape behind
    have hbehind : ∀ s ∈ (Schema.ofDecls ds).shapes (d.lineage (.ofDecls ds)).tail, ∀ fs, s.dataFields = some fs →
        ∀ f ∈ fs, ∃ s' ∈ (Schema.ofDecls ds).shapes (d.toShape (.ofDecls ds)).lineage,
          s'.kind = .data ∧ (f.name, !f.isPseudo) ∈ s'.takes := by
      intro s hs fs hfs f hf
      obtain ⟨name, hname, hs⟩ := Schema.mem_shapes.1 hs
      obtain ⟨s', hs', htakes⟩ := ih name s ((h.hasBases hd).behind name hname).2 hs fs hfs f hf
      have hsubset := h.lineage_subset hshape (.shape name) (List.mem_of_mem_tail hname)
      rw [Schema.lineage_of_shape? hs] at hsubset
      exact ⟨s', Schema.shapes_subset hsubset hs', htakes⟩
    by_cases hkind : d.kind = .data
    · have hfields : (d.toShape (.ofDecls ds)).dataFields = _ := ShapeDecl.dataFields_of_data hkind
      rw [hfields] at hfs
      cases hfs
      obtain ⟨e, he, rfl⟩ := List.mem_map.1 hf
      have hname := (ShapeDecl.nodup_collected _).2 e he
      obtain ⟨fs, hfs, he⟩ := mem_foldl_putEntries _ _ he
      rcases List.mem_append.1 hfs with hfs | hfs
      · obtain ⟨s, hs, hfields⟩ := List.mem_filterMap.1 hfs
        have hmem : ∀ e ∈ fs.map (fun f => (f.name, f)), e.2 ∈ fs := by
          simp
        exact hbehind s (List.mem_reverse.1 hs) fs hfields e.2 (forall_mem_putEntries (by simp) hmem e he)
      · rw [List.mem_singleton.1 hfs] at he
        have hself : d.toShape (.ofDecls ds) ∈ (Schema.ofDecls ds).shapes (d.lineage (.ofDecls ds)) := by
          rw [h.shapes_lineage hd]
          exact List.mem_cons_self
        refine ⟨d.toShape (.ofDecls ds), hself, hkind, ?_⟩
        rw [hname, ShapeDecl.takes_toShape (by simp [hkind])]
        exact ShapeDecl.mem_takes_of_ownData hkind he
    · obtain ⟨s, hs, hfields⟩ := ShapeDecl.exists_of_dataFields hkind hfs
      exact hbehind s hs fs hfields f hf

/-- The names of the fields of a data class, of which its relatives say what is a field. -/
theorem names_fields_of_data (h : Accepted ds) {name : Text} {s : Shape} {relatives : List Shape}
    (hs : (Schema.ofDecls ds).shape? name = some s) {fs : List DataField} (hfs : s.dataFields = some fs)
    (hagree : AgreeOnFields relatives)
    (hrelatives : ∀ s' ∈ (Schema.ofDecls ds).shapes s.lineage, s'.kind = .data → s' ∈ relatives) :
    ((Schema.ofDecls ds).fields name).map Field.name = (fs.map DataField.name).filter (IsFieldIn relatives) := by
  have hfield : ∀ f ∈ fs, (!f.isPseudo) = IsFieldIn relatives f.name := by
    intro f hf
    obtain ⟨s', hs', hkind, htakes⟩ := h.exists_takes hs fs hfs f hf
    exact (hagree.isFieldIn (hrelatives s' hs' hkind) htakes).symm
  have hdata : ((Schema.ofDecls ds).shape? name).bind Shape.dataFields = some fs := by
    rw [hs, Option.bind_some, hfs]
  rw [Schema.names_fields, Schema.declared_of_dataFields hdata, List.map_map, List.filter_map, List.filter_congr hfield]
  rfl

/-- A class with a single base inherits what the base has inherited, and behind it what the base has collected. -/
theorem inherited_of_base {e : ShapeDecl} (h : Accepted ds) (he : e ∈ ds) (hkind : d.kind ≠ .dictionary)
    (hbase : d.bases = [.shape e.name]) {fs : List DataField} (hfs : e.dataFields (.ofDecls ds) = some fs) :
    d.inherited (.ofDecls ds) = e.inherited (.ofDecls ds) ++ [fs] := by
  have hlast : [e.toShape (.ofDecls ds)].filterMap Shape.dataFields = [fs] := List.filterMap_cons_some hfs
  rw [ShapeDecl.inherited, h.lineage_of_base he hkind hbase, h.shapes_lineage he, List.reverse_cons,
    List.filterMap_append, hlast]
  rfl

/-- A data class with a data class as its single base has the names of the base, and then its own ones. -/
theorem names_dataFields_of_base {e : ShapeDecl} (h : Accepted ds) (he : e ∈ ds) (hbase : d.bases = [.shape e.name])
    (hdata : d.kind = .data) (hedata : e.kind = .data) :
    ∃ fs fs', d.dataFields (.ofDecls ds) = some fs ∧ e.dataFields (.ofDecls ds) = some fs' ∧
      (fs'.map DataField.name).Nodup ∧
      fs.map DataField.name = (fs'.map DataField.name ++ d.fields.map FieldDecl.name).eraseDups := by
  have hown : ∀ d : ShapeDecl, d.ownData.map DataField.name = d.fields.map FieldDecl.name := by
    intro d
    rw [ShapeDecl.ownData, List.map_map]
    rfl
  have hefields : e.dataFields (.ofDecls ds) = _ := ShapeDecl.dataFields_of_data hedata
  have hinherited := h.inherited_of_base he (d := d) (by simp [hdata]) hbase hefields
  refine ⟨_, _, ShapeDecl.dataFields_of_data hdata, hefields, ?_, ?_⟩
  · rw [ShapeDecl.names_collected]
    exact (ShapeDecl.nodup_collected _).1
  · -- what the base has inherited is collected once more, in front of what it has collected of it
    rw [ShapeDecl.names_collected_eq, hinherited]
    simp only [List.flatten_append, List.flatten_singleton, List.map_append, ShapeDecl.names_collected_eq, hown]
    refine eraseDups_append_congr ?_ rfl
    rw [eraseDups_append_self, eraseDups_eraseDups]

/-- Where a shape agrees with its relatives, what it takes for a field is one for them. -/
theorem isFieldIn_relatives (h : Accepted ds) (hd : d ∈ ds) (hkind : d.kind ≠ .dictionary)
    (hagree : AgreeOnFields (d.relatives (.ofDecls ds))) {a : Text × Bool} (ha : a ∈ d.takes) :
    IsFieldIn (d.relatives (.ofDecls ds)) a.1 = a.2 := by
  have hself : d.toShape (.ofDecls ds) ∈ d.relatives (.ofDecls ds) := by
    rw [ShapeDecl.relatives, h.shapes_lineage hd]
    exact List.mem_filter.2 ⟨List.mem_cons_self, decide_eq_true rfl⟩
  refine hagree.isFieldIn hself ?_
  rwa [ShapeDecl.takes_toShape hkind]

/-- Two data classes, one of which is the single base of the other. -/
theorem names_of_base_data {e : ShapeDecl} (h : Accepted ds) (hd : d ∈ ds) (he : e ∈ ds)
    (hbase : d.bases = [.shape e.name]) (hdata : d.kind = .data) (hedata : e.kind = .data)
    (hagree : AgreeOnFields (d.relatives (.ofDecls ds))) :
    ((Schema.ofDecls ds).fields d.name).map Field.name = ((Schema.ofDecls ds).fields e.name).map Field.name ++
      d.newFields (((Schema.ofDecls ds).fields e.name).map Field.name) := by
  obtain ⟨fs, fs', hfs, hfs', hnodup, hnames⟩ := h.names_dataFields_of_base he hbase hdata hedata
  have hkind : d.kind ≠ .dictionary := by simp [hdata]
  have hmem : ∀ s ∈ (Schema.ofDecls ds).shapes (d.lineage (.ofDecls ds)), s.kind = .data →
      s ∈ d.relatives (.ofDecls ds) := by
    intro s hs hskind
    exact List.mem_filter.2 ⟨hs, by simp [hskind, hdata]⟩
  have hbehind := h.shapes_base_subset hd he hkind hbase
  rw [h.names_fields_of_data (h.shape? hd) hfs hagree hmem,
    h.names_fields_of_data (h.shape? he) hfs' hagree fun s hs => hmem s (hbehind hs), hnames,
    d.filter_append_own hnodup fun a ha => h.isFieldIn_relatives hd hkind hagree ha]

end Accepted

/-! ### Other annotated classes -/

namespace Schema

variable {shape : Text}

/-- What an annotation of a class without special relatives declares is what one of its shapes takes the name for. -/
theorem exists_takes_of_mem_writtenHints (hplain : ∀ s ∈ schema.shapes (schema.lineage (.shape shape)), s.kind = .plain) :
    ∀ a ∈ schema.writtenHints shape, ∃ s ∈ schema.shapes (schema.lineage (.shape shape)),
      (a.1, !(settled true a.2).isClassVar) ∈ s.takes := by
  intro a ha
  obtain ⟨s, hs, ha⟩ := exists_of_mem_writtenHints ha
  have htakes : s.takes = (putEntries [] (openAnnotations s)).map fun a => (a.1, !(settled true a.2).isClassVar) := by
    have hmap := putEntries_map (fun _ (a : Bool × TypeExpr) => !(settled true a).isClassVar) [] (openAnnotations s)
    rw [← hmap, Shape.takes, ShapeKind.takes, openAnnotations, hplain s hs, List.map_map]
    rfl
  refine ⟨s, hs, ?_⟩
  rw [htakes]
  exact List.mem_map_of_mem ha

end Schema

namespace Accepted

variable {ds : List ShapeDecl} {d e : ShapeDecl}

/-- A class without special relatives is described by its annotations. -/
theorem isAnnotated_of_plain (h : Accepted ds) (hd : d ∈ ds)
    (hplain : ∀ s ∈ (Schema.ofDecls ds).shapes (d.lineage (.ofDecls ds)), s.kind = .plain) :
    (Schema.ofDecls ds).IsAnnotated d.name := by
  have hshapes := h.shapes_lineage hd
  have hkind : d.kind = .plain := hplain (d.toShape (.ofDecls ds)) (by simp [hshapes])
  have hdata : (d.toShape (.ofDecls ds)).dataFields = none := by
    have hfields : (d.toShape (.ofDecls ds)).dataFields = d.dataFields (.ofDecls ds) := rfl
    rw [hfields, ShapeDecl.dataFields, if_neg (by simp [hkind]), List.findSome?_eq_none_iff]
    intro s hs
    have hskind := hplain s (by simp [hshapes, hs])
    simp [Shape.ownDataFields, hskind]
  have hslots : (d.toShape (.ofDecls ds)).slots = none := by
    rw [(h.declared.sound (h.shape? hd)).slots, List.findSome?_eq_none_iff]
    intro s hs
    simp [Shape.ownSlots, hplain s hs]
  rw [Schema.IsAnnotated, h.shape? hd]
  exact ⟨hdata, hslots⟩

/-- The names of the fields of a class without special relatives, of which its relatives say what is a field. -/
theorem names_fields_of_plain (h : Accepted ds) (hd : d ∈ ds) {relatives : List Shape}
    (hplain : ∀ s ∈ (Schema.ofDecls ds).shapes (d.lineage (.ofDecls ds)), s.kind = .plain)
    (hresolvable : (Schema.ofDecls ds).resolvable d.name = true) (hagree : AgreeOnFields relatives)
    (hrelatives : (Schema.ofDecls ds).shapes (d.lineage (.ofDecls ds)) ⊆ relatives) :
    ((Schema.ofDecls ds).fields d.name).map Field.name =
      (((Schema.ofDecls ds).writtenHints d.name).map Prod.fst).filter (IsFieldIn relatives) := by
  have hannotated := h.isAnnotated_of_plain hd hplain
  rw [← h.lineage_shape hd] at hplain hrelatives
  have hfield : ∀ a ∈ (Schema.ofDecls ds).writtenHints d.name,
      (!(Schema.settled true a.2).isClassVar) = IsFieldIn relatives a.1 := by
    intro a ha
    obtain ⟨s, hs, htakes⟩ := Schema.exists_takes_of_mem_writtenHints hplain a ha
    exact (hagree.isFieldIn (hrelatives hs) htakes).symm
  rw [Schema.names_fields, Schema.declared_of_isAnnotated hannotated, hresolvable, List.map_map, List.filter_map,
    List.filter_congr hfield]
  rfl

/-- The annotations of a class with a single base are those of the base and its own ones. -/
theorem names_writtenHints_of_base (h : Accepted ds) (hd : d ∈ ds) (he : e ∈ ds) (hkind : d.kind ≠ .dictionary)
    (hbase : d.bases = [.shape e.name]) : ((Schema.ofDecls ds).writtenHints d.name).map Prod.fst =
      (((Schema.ofDecls ds).writtenHints e.name).map Prod.fst ++ d.fields.map FieldDecl.name).eraseDups := by
  have hown : (Schema.openAnnotations (d.toShape (.ofDecls ds))).map Prod.fst = d.fields.map FieldDecl.name := by
    rw [Schema.openAnnotations, ShapeDecl.annotations_toShape hkind, List.map_map, List.map_map]
    rfl
  rw [Schema.writtenHints, h.lineage_shape hd, h.shapes_of_base hd he hkind hbase, ← h.lineage_shape he,
    List.reverse_cons, List.foldl_append, ← Schema.writtenHints, List.foldl_cons, List.foldl_nil,
    map_fst_putEntries (Schema.nodup_writtenHints e.name), hown]

/-- Annotated classes without special relatives, one of which is the single base of the other. -/
theorem names_of_base_plain (h : Accepted ds) (hd : d ∈ ds) (he : e ∈ ds) (hbase : d.bases = [.shape e.name])
    (hplain : ∀ s ∈ (Schema.ofDecls ds).shapes (d.lineage (.ofDecls ds)), s.kind = .plain)
    (hresolvable : (Schema.ofDecls ds).resolvable d.name = true)
    (hagree : AgreeOnFields (d.relatives (.ofDecls ds))) :
    ((Schema.ofDecls ds).fields d.name).map Field.name = ((Schema.ofDecls ds).fields e.name).map Field.name ++
      d.newFields (((Schema.ofDecls ds).fields e.name).map Field.name) := by
  have hkind : d.kind = .plain := hplain (d.toShape (.ofDecls ds)) (by simp [h.shapes_lineage hd])
  have hdictionary : d.kind ≠ .dictionary := by simp [hkind]
  have hbehind := h.shapes_base_subset hd he hdictionary hbase
  have hrelatives : (Schema.ofDecls ds).shapes (d.lineage (.ofDecls ds)) ⊆ d.relatives (.ofDecls ds) := by
    intro s hs
    exact List.mem_filter.2 ⟨hs, by simp [hplain s hs, hkind]⟩
  have heresolvable : (Schema.ofDecls ds).resolvable e.name = true := by
    rw [Schema.resolvable, h.lineage_shape hd, List.all_eq_true] at hresolvable
    rw [Schema.resolvable, h.lineage_shape he, List.all_eq_true]
    exact fun s hs => hresolvable s (hbehind hs)
  rw [h.names_fields_of_plain hd hplain hresolvable hagree hrelatives,
    h.names_fields_of_plain he (fun s hs => hplain s (hbehind hs)) heresolvable hagree fun _ hs => hrelatives (hbehind hs),
    h.names_writtenHints_of_base hd he hdictionary hbase,
    d.filter_append_own (Schema.nodup_writtenHints e.name) fun a ha => h.isFieldIn_relatives hd hdictionary hagree ha]

end Accepted

/-! ### Fields of a class and its base -/

theorem Schema.Declared.nodup_describe (h : schema.Declared) (t : TypeExpr) :
    ((schema.describe t).map Field.name).Nodup := by
  unfold describe
  split
  · exact h.nodup_fields _
  · exact List.nodup_singleton _
  · exact List.nodup_singleton _
  · exact List.nodup_nil

/-- No type is described with a name twice. Where a data class has a data class as its single base, or any annotated class
has one whose lineage holds nothing but such classes, and the shapes of its kind in the lineage agree on which names are
fields, its fields are those of the base in their order, and then those that it declares itself. A data class takes
neither a class nor an initialization variable for a field, another class only no class variable. -/
theorem names_of_base {ds : List ShapeDecl} (h : Accepted ds) :
    (∀ t, (((Schema.ofDecls ds).describe t).map Field.name).Nodup) ∧
    ∀ d ∈ ds, ∀ e ∈ ds, d.bases = [.shape e.name] →
      (d.kind = .data ∧ e.kind = .data ∨
        ∀ s ∈ (Schema.ofDecls ds).shapes (d.lineage (.ofDecls ds)), s.kind = .plain) →
      (Schema.ofDecls ds).resolvable d.name = true → AgreeOnFields (d.relatives (.ofDecls ds)) →
      let inherited := ((Schema.ofDecls ds).describe (.shape e.name)).map Field.name
      ((Schema.ofDecls ds).describe (.shape d.name)).map Field.name = inherited ++ d.newFields inherited := by
  refine ⟨h.declared.nodup_describe, fun d hd e he hbase hkind hresolvable hagree => ?_⟩
  rcases hkind with ⟨hdata, hedata⟩ | hplain
  · exact h.names_of_base_data hd he hbase hdata hedata hagree
  · exact h.names_of_base_plain hd he hbase hplain hresolvable hagree

/-- A data class with a class variable among its fields. -/
def pixelDecl : ShapeDecl where
  name := "Pixel"
  kind := .data
  bases := []
  fields :=
    [⟨"x", .builtin "int", none, none⟩, ⟨"unit", .qualified .classVar (.builtin "str"), none, none⟩,
      ⟨"y", .builtin "int", none, none⟩]
  computed := []
  exports := false
  tabular := none

/-- A data class that descends from it and declares one of its fields again. -/
def colouredPixelDecl : ShapeDecl where
  name := "ColouredPixel"
  kind := .data
  bases := [.shape "Pixel"]
  fields := [⟨"colour", .builtin "str", none, none⟩, ⟨"x", .builtin "float", none, none⟩]
  computed := []
  exports := false
  tabular := none

theorem names_of_base_colouredPixel :
    AgreeOnFields (colouredPixelDecl.relatives (.ofDecls [pixelDecl, colouredPixelDecl])) ∧
      ((Schema.ofDecls [pixelDecl, colouredPixelDecl]).describe (.shape "ColouredPixel")).map Field.name =
        ["x", "y"] ++ ["colour"] := by
  have hagree : AgreeOnFields (colouredPixelDecl.relatives (.ofDecls [pixelDecl, colouredPixelDecl])) := by decide
  have haccepted : Accepted [pixelDecl, colouredPixelDecl] :=
    accepted_derived rfl rfl (by decide) (by decide) (by decide) (by decide)
  refine ⟨hagree, ?_⟩
  exact (names_of_base haccepted).2 colouredPixelDecl (by simp) pixelDecl (by simp) rfl (.inl ⟨rfl, rfl⟩) rfl
    hagree

/-- A class whose attribute is written as an initialization variable. -/
def ticketDecl : ShapeDecl where
  name := "Ticket"
  kind := .plain
  bases := []
  fields := [⟨"seat", .qualified .initVar (.builtin "int"), none, none⟩]
  computed := []
  exports := false
  tabular := none

/-- A class that descends from it and makes the attribute a class variable. -/
def standingTicketDecl : ShapeDecl where
  name := "StandingTicket"
  kind := .plain
  bases := [.shape "Ticket"]
  fields := [⟨"seat", .qualified .classVar (.builtin "int"), none, none⟩]
  computed := []
  exports := false
  tabular := none

/-- Here no annotation is that of an ordinary field, but the field of the base is lost. -/
theorem names_of_base_standingTicket :
    Accepted [ticketDecl, standingTicketDecl] ∧ standingTicketDecl.bases = [.shape ticketDecl.name] ∧
      (∀ s ∈ Schema.ofDecls [ticketDecl, standingTicketDecl], s.kind = .plain) ∧
      (∀ d ∈ [ticketDecl, standingTicketDecl],
        (Schema.ofDecls [ticketDecl, standingTicketDecl]).resolvable d.name = true ∧
          ∀ f ∈ d.fields, f.annotation.isPseudoField = true) ∧
      ¬ ((Schema.ofDecls [ticketDecl, standingTicketDecl]).describe (.shape "Ticket")).map Field.name <+:
        ((Schema.ofDecls [ticketDecl, standingTicketDecl]).describe (.shape "StandingTicket")).map Field.name := by
  have haccepted : Accepted [ticketDecl, standingTicketDecl] :=
    accepted_derived rfl rfl (by decide) (by decide) (by decide) (by decide)
  exact ⟨haccepted, rfl, by decide, by decide, by decide⟩

end RecordPrint
