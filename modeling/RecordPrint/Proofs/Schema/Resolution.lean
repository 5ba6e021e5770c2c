import RecordPrint.Proofs.Schema.Changes

/-!
# Annotations that cannot be resolved

One annotation that cannot be resolved leaves all annotations of a shape and its ancestors as they were written. The
other fields stay as they are only as far as they are described alike by both.

* `SameBut` — declarations that differ in nothing but the annotations of the fields of a name;
* `resolvable_eq_false` — a shape with an annotation that cannot be resolved has all of them as they were written;
* `TypeExpr.shown_of_resolve?` — without quotes and alternatives nothing is hidden in an annotation;
* `others_kept_iff` — the other fields of the shape are the same exactly if resolving their annotations tells neither a
  class variable nor a header that cannot be seen in what was written.
-/

namespace RecordPrint

/-! ### Entries of other names -/

section Entries

variable {α : Type} {es : List (Text × α)} {name f : Text}

/-- The entries whose name is another one. -/
def otherEntries (f : Text) (es : List (Text × α)) : List (Text × α) := es.filter fun e => e.1 ≠ f

theorem mem_otherEntries {e : Text × α} : e ∈ otherEntries f es ↔ e ∈ es ∧ e.1 ≠ f := by
  rw [otherEntries, List.mem_filter, decide_eq_true_eq]

/-- What does nothing to other names leaves the entries of other names. -/
theorem otherEntries_map (es : List (Text × α)) {g : Text → α → α} (h : ∀ name, name ≠ f → ∀ a, g name a = a) :
    otherEntries f (es.map fun e => (e.1, g e.1 e.2)) = otherEntries f es := by
  have hmap : ∀ e ∈ otherEntries f es, (e.1, g e.1 e.2) = e := by
    intro e he
    rw [h e.1 (mem_otherEntries.1 he).2]
  rw [otherEntries, List.filter_map]
  exact (List.map_congr_left hmap).trans (List.map_id _)

/-- Choosing among what entries are made of and leaving out those of a name can be done in either order. -/
theorem otherEntries_map_filter {β : Type} (entry : β → Text × α) (p : β → Bool) (bs : List β) :
    otherEntries f ((bs.filter p).map entry) = ((bs.filter fun b => (entry b).1 ≠ f).filter p).map entry := by
  rw [otherEntries, List.filter_map, List.filter_filter, List.filter_filter]
  simp only [Function.comp_def, Bool.and_comm]

theorem lookup_otherEntries (h : name ≠ f) : (otherEntries f es).lookup name = es.lookup name := by
  induction es with
  | nil => rfl
  | cons e es ih =>
    by_cases he : e.1 = f
    · have hdrop : otherEntries f (e :: es) = otherEntries f es := List.filter_cons_of_neg (by simpa using he)
      have hother : (name == e.1) = false := beq_eq_false_iff_ne.2 fun heq => h (heq.trans he)
      rw [hdrop, ih, List.lookup_cons, hother]
    · have hkeep : otherEntries f (e :: es) = e :: otherEntries f es := List.filter_cons_of_pos (by simpa using he)
      rw [hkeep, List.lookup_cons, List.lookup_cons, ih]

end Entries

/-! ### What an annotation shows -/

namespace TypeExpr

/-- Whether quotes or alternatives hide what an expression says. -/
def isHidden (t : TypeExpr) : Bool :=
  match t.unannotated with
  | quoted _ | either _ _ => true
  | _ => false

/-- What is not hidden stays as it is when the expression is resolved. -/
theorem shown_of_resolve? {t r : TypeExpr} {top : Bool} (ht : t.isHidden = false) (hr : t.resolve? top = some r) :
    r.isClassVar = t.isClassVar ∧ r.marks = t.marks := by
  induction t generalizing top r with
  | annotated t marks ih =>
    obtain ⟨s, hs, rfl⟩ := Option.map_eq_some_iff.1 hr
    obtain ⟨hclassVar, hmarks⟩ : s.isClassVar = t.isClassVar ∧ s.marks = t.marks := ih ht hs
    exact ⟨hclassVar, congrArg (· ++ marks) hmarks⟩
  | qualified q t =>
    cases q with
    | initVar =>
      cases hr
      exact ⟨rfl, rfl⟩
    | _ =>
      obtain ⟨s, -, rfl⟩ := Option.map_eq_some_iff.1 hr
      exact ⟨rfl, rfl⟩
  | ref t | listOf t =>
    obtain ⟨s, -, rfl⟩ := Option.map_eq_some_iff.1 hr
    exact ⟨rfl, rfl⟩
  | mapOf k v =>
    obtain ⟨k', -, hr⟩ := Option.bind_eq_some_iff.1 hr
    obtain ⟨v', -, hr⟩ := Option.bind_eq_some_iff.1 hr
    cases hr
    exact ⟨rfl, rfl⟩
  | quoted t | either a b => cases ht
  | unknown => cases hr
  | _ =>
    cases hr
    exact ⟨rfl, rfl⟩

theorem header?_of_resolve? {t r : TypeExpr} {top : Bool} (ht : t.isHidden = false) (hr : t.resolve? top = some r) :
    r.header? = t.header? := by
  rw [header?, (shown_of_resolve? ht hr).2]
  rfl

theorem isHidden_of_isClassVar {t : TypeExpr} (ht : t.isClassVar = true) : t.isHidden = false := by
  unfold isClassVar at ht
  unfold isHidden
  split at ht
  · simp [*]
  · simp [*]
  · cases ht

end TypeExpr

/-! ### Declarations that differ in one annotation -/

/-- The annotations of the fields of a name as something that names nothing. -/
def masking (f : Text) : FieldChange where
  type name t := if name = f then .unknown else t
  isPseudo name b := if name = f then false else b
  tag _ tag := tag
  isPseudoField_type name t := by
    split <;> rfl

/-- Another annotation of the fields of a name. -/
def replacing (f : Text) (t : TypeExpr) : FieldChange where
  type name old := if name = f then t else old
  isPseudo name b := if name = f then t.isPseudoField else b
  tag _ tag := tag
  isPseudoField_type name old := by
    split <;> rfl

/-- Declarations that differ in nothing but the annotations of the fields of a name. -/
def SameBut (f : Text) (ds ds' : List ShapeDecl) : Prop :=
  ds.map (ShapeDecl.change (masking f)) = ds'.map (ShapeDecl.change (masking f))

theorem sameBut_replacing (f : Text) (t : TypeExpr) (ds : List ShapeDecl) :
    SameBut f ds (ds.map (ShapeDecl.change (replacing f t))) := by
  have hfield : ∀ g : FieldDecl, (g.change (replacing f t)).change (masking f) = g.change (masking f) := by
    intro g
    simp only [FieldDecl.change, masking, replacing]
    split <;> rfl
  rw [SameBut, List.map_map]
  refine List.map_congr_left fun d _ => ?_
  simp only [Function.comp_apply, ShapeDecl.change, List.map_map]
  congr 1
  exact List.map_congr_left fun g _ => (hfield g).symm

namespace Schema

variable {schema schema' : Schema} {f shape : Text}

theorem change_masking_of_sameBut {ds ds' : List ShapeDecl} (h : SameBut f ds ds') :
    (ofDecls ds).change (masking f) = (ofDecls ds').change (masking f) := by
  rw [← ofDecls_change, ← ofDecls_change, h]

theorem mem_writtenHints_replacing {t t' : TypeExpr} {top : Bool} (h : (f, top, t) ∈ schema.writtenHints shape) :
    (f, top, t') ∈ (schema.change (replacing f t')).writtenHints shape := by
  rw [writtenHints_change]
  refine List.mem_map.2 ⟨_, h, ?_⟩
  simp [replacing]

/-! ### What does not depend on the annotation -/

section Masked

variable (h : schema.change (masking f) = schema'.change (masking f))

include h

/-- The other annotations that were written are the same. -/
theorem otherEntries_writtenHints :
    otherEntries f (schema.writtenHints shape) = otherEntries f (schema'.writtenHints shape) := by
  have hkeeps : ∀ name, name ≠ f → ∀ a : Bool × TypeExpr, (a.1, (masking f).type name a.2) = a :=
    fun name hname a => congrArg (a.1, ·) (if_neg hname)
  have hwritten : (schema.change (masking f)).writtenHints shape = _ := writtenHints_change (masking f) shape
  rw [h, writtenHints_change] at hwritten
  have hothers := congrArg (otherEntries f) hwritten
  have hleft := otherEntries_map (schema'.writtenHints shape) hkeeps
  have hright := otherEntries_map (schema.writtenHints shape) hkeeps
  exact hright.symm.trans (hothers.symm.trans hleft)

theorem slots_masked (shape : Text) :
    (schema.shape? shape).bind Shape.slots = (schema'.shape? shape).bind Shape.slots := by
  rw [← slots_change (masking f), h, slots_change]

theorem dataFields_masked (shape : Text) :
    ((schema.shape? shape).bind Shape.dataFields).map (·.map (DataField.change (masking f))) =
      ((schema'.shape? shape).bind Shape.dataFields).map (·.map (DataField.change (masking f))) := by
  rw [← dataFields_change, h, dataFields_change]

end Masked

/-! ### Annotations as they were written -/

theorem isSome_resolve?_of_mem (hresolvable : schema.resolvable shape = true) {a : Text × Bool × TypeExpr}
    (ha : a ∈ schema.writtenHints shape) : (a.2.2.resolve? a.2.1).isSome := by
  obtain ⟨s, hs, hput⟩ := exists_of_mem_writtenHints ha
  have hwritten : a ∈ openAnnotations s :=
    forall_mem_putEntries (P := (· ∈ openAnnotations s)) (by simp) (fun _ he => he) a hput
  rw [resolvable, List.all_eq_true] at hresolvable
  exact List.all_eq_true.1 (hresolvable s hs) a hwritten

/-- A shape with an annotation that cannot be resolved has all of them as they were written. -/
theorem resolvable_eq_false {a : Text × Bool × TypeExpr} (h : a ∈ schema.writtenHints shape)
    (hunresolved : a.2.2.resolve? a.2.1 = none) : schema.resolvable shape = false := by
  rw [← Bool.not_eq_true]
  intro hresolvable
  have hsome := isSome_resolve?_of_mem hresolvable h
  rw [hunresolved] at hsome
  cases hsome

/-! ### Declared fields of other names -/

/-- The declared fields of other names. -/
def others (schema : Schema) (f shape : Text) : List (Text × Option Text) := otherEntries f (schema.declared shape)

/-- The other fields of a shape that is described by its annotations. -/
theorem others_of_isAnnotated (h : schema.IsAnnotated shape) : schema.others f shape =
    ((otherEntries f (schema.writtenHints shape)).filter
      fun a => !(settled (schema.resolvable shape) a.2).isClassVar).map fun a => (a.1, none) := by
  rw [others, declared_of_isAnnotated h, otherEntries_map_filter]
  rfl

theorem filter_change_masking (f : Text) (fields : List DataField) :
    (fields.map (DataField.change (masking f))).filter (fun g => g.name ≠ f) = fields.filter fun g => g.name ≠ f := by
  have hchange : ∀ g ∈ fields.filter (fun g => g.name ≠ f), g.change (masking f) = g := by
    intro g hg
    have hname : g.name ≠ f := of_decide_eq_true (List.mem_filter.1 hg).2
    simp only [DataField.change, masking, if_neg hname]
  rw [List.filter_map]
  exact (List.map_congr_left hchange).trans (List.map_id _)

/-- The fields of a data class and the items of a tuple are collected as they are declared, with no annotation but their
own. -/
theorem others_of_not_isAnnotated (h : schema.change (masking f) = schema'.change (masking f))
    (hkind : ¬ schema.IsAnnotated shape) : schema.others f shape = schema'.others f shape := by
  have hdata := dataFields_masked h shape
  have hslots := slots_masked h shape
  cases hfields : (schema.shape? shape).bind Shape.dataFields with
  | none =>
    rw [hfields, Option.map_none, eq_comm, Option.map_eq_none_iff] at hdata
    cases hnames : (schema.shape? shape).bind Shape.slots with
    | none => exact absurd ⟨hfields, hnames⟩ hkind
    | some names =>
      rw [others, others, declared_of_slots hfields hnames, declared_of_slots hdata (hslots ▸ hnames)]
  | some fields =>
    rw [hfields, Option.map_some, eq_comm, Option.map_eq_some_iff] at hdata
    obtain ⟨fields', hfields', hchange⟩ := hdata
    have hsame : fields.filter (fun g => g.name ≠ f) = fields'.filter fun g => g.name ≠ f := by
      rw [← filter_change_masking, ← hchange, filter_change_masking]
    rw [others, others, declared_of_dataFields hfields, declared_of_dataFields hfields', otherEntries_map_filter,
      otherEntries_map_filter, hsame]

theorem isAnnotated_iff (h : schema.change (masking f) = schema'.change (masking f)) :
    schema.IsAnnotated shape ↔ schema'.IsAnnotated shape := by
  have hdata := congrArg (· = none) (dataFields_masked h shape)
  simp only [Option.map_eq_none_iff, eq_iff_iff] at hdata
  rw [IsAnnotated, IsAnnotated, hdata, slots_masked h shape]

/-- The other declared fields are told by their names. -/
theorem others_eq_iff_names (h : schema.change (masking f) = schema'.change (masking f)) :
    schema.others f shape = schema'.others f shape ↔
      (schema.others f shape).map Prod.fst = (schema'.others f shape).map Prod.fst := by
  by_cases hkind : schema.IsAnnotated shape
  · have huntagged : ∀ {schema : Schema}, schema.IsAnnotated shape →
        schema.others f shape = ((schema.others f shape).map Prod.fst).map (·, none) := by
      intro schema hkind
      rw [others_of_isAnnotated hkind, List.map_map, List.map_map]
      rfl
    refine ⟨congrArg _, fun hnames => ?_⟩
    rw [huntagged hkind, hnames, ← huntagged ((isAnnotated_iff h).1 hkind)]
  · have hsame := others_of_not_isAnnotated h hkind
    exact iff_of_true hsame (congrArg _ hsame)

theorem label_eq (schema : Schema) (shape name : Text) (tag : Option Text) : schema.label shape name tag =
    match tag with
    | none | some [] =>
      ((schema.writtenHints shape).lookup name).bind fun a => (settled (schema.resolvable shape) a).header?
    | some tag => some tag := by
  rw [label.eq_def, hints_eq, lookup_map_snd, Option.bind_map]
  rfl

/-! ### Other fields -/

/-- Resolving the annotation of a name tells a class variable only where one can be seen in what was written, and the
other way round. -/
def ShowsClassVar (schema : Schema) (shape name : Text) : Prop :=
  ∀ a r, (schema.writtenHints shape).lookup name = some a → a.2.resolve? a.1 = some r → r.isClassVar = a.2.isClassVar

/-- Resolving the annotation of a name tells the header that can be seen in what was written. -/
def ShowsHeader (schema : Schema) (shape name : Text) : Prop :=
  ∀ a r, (schema.writtenHints shape).lookup name = some a → a.2.resolve? a.1 = some r → r.header? = a.2.header?

/-- Resolving the annotations of other fields tells nothing of them that cannot be seen in what was written: neither,
where they are described by their annotations, which of them are class variables, nor the headers of those that have no
label attached to them. -/
def ShowsOthers (schema : Schema) (f shape : Text) : Prop :=
  (schema.IsAnnotated shape → ∀ name, name ≠ f → schema.ShowsClassVar shape name) ∧
    ∀ d ∈ schema.declared shape, d.1 ≠ f → d.2.getD [] = [] → schema.ShowsHeader shape d.1

/-- Other annotations that nothing is hidden in show all of it. -/
theorem showsOthers_of_not_isHidden
    (h : ∀ a ∈ schema.writtenHints shape, a.1 ≠ f → a.2.2.isHidden = false) : schema.ShowsOthers f shape := by
  constructor
  · intro _ name hname a r ha hr
    exact (TypeExpr.shown_of_resolve? (h _ (mem_of_lookup ha) hname) hr).1
  · intro d _ hname _ a r ha hr
    exact TypeExpr.header?_of_resolve? (h _ (mem_of_lookup ha) hname) hr

theorem settled_eq_iff {β : Type} {g : TypeExpr → β} {resolvable : Bool} {a : Bool × TypeExpr} :
    g (settled resolvable a) = g a.2 ↔ (resolvable = true → ∀ r, a.2.resolve? a.1 = some r → g r = g a.2) := by
  cases resolvable with
  | false => simp [settled]
  | true => cases hr : a.2.resolve? a.1 <;> simp [settled, hr]

theorem otherFields_eq (schema : Schema) (f shape : Text) : (schema.fields shape).filter (fun g => g.name ≠ f) =
    (schema.others f shape).map fun d => ⟨d.1, schema.label shape d.1 d.2⟩ := by
  rw [fields, List.filter_map]
  rfl

theorem names_otherFields (schema : Schema) (f shape : Text) :
    ((schema.fields shape).filter fun g => g.name ≠ f).map Field.name = (schema.others f shape).map Prod.fst := by
  rw [otherFields_eq, List.map_map]
  rfl

/-- The other fields are the same exactly if they are declared alike and have the same labels. -/
theorem otherFields_eq_iff (h : schema.change (masking f) = schema'.change (masking f)) :
    (schema.fields shape).filter (fun g => g.name ≠ f) = (schema'.fields shape).filter (fun g => g.name ≠ f) ↔
      schema.others f shape = schema'.others f shape ∧
        ∀ d ∈ schema.others f shape, schema.label shape d.1 d.2 = schema'.label shape d.1 d.2 := by
  constructor
  · intro heq
    have hnames := congrArg (List.map Field.name) heq
    rw [names_otherFields, names_otherFields] at hnames
    have hothers := (others_eq_iff_names h).2 hnames
    rw [otherFields_eq, otherFields_eq, ← hothers, List.map_inj_left] at heq
    exact ⟨hothers, fun d hd => (Field.mk.inj (heq d hd)).2⟩
  · rintro ⟨hothers, hlabels⟩
    rw [otherFields_eq, otherFields_eq, ← hothers]
    exact List.map_congr_left fun d hd => by rw [hlabels d hd]

section Unresolved

variable (h : schema.change (masking f) = schema'.change (masking f)) (hunresolved : schema'.resolvable shape = false)

include h hunresolved

/-- The other annotated fields are the same exactly if resolving their annotations tells no other class variables. -/
theorem otherNames_eq_iff (hkind : schema.IsAnnotated shape) :
    (schema.others f shape).map Prod.fst = (schema'.others f shape).map Prod.fst ↔
      (schema.resolvable shape = true → ∀ name, name ≠ f → schema.ShowsClassVar shape name) := by
  have hnodup : ((otherEntries f (schema.writtenHints shape)).map Prod.fst).Nodup :=
    (nodup_writtenHints shape).sublist (List.filter_sublist.map _)
  have hnames := filter_names_eq_iff (p := fun a => !(settled (schema.resolvable shape) a.2).isClassVar)
    (q := fun a => !a.2.2.isClassVar) hnodup
  have hwritten : ∀ a : Bool × TypeExpr, settled false a = a.2 := fun _ => rfl
  rw [others_of_isAnnotated hkind, others_of_isAnnotated ((isAnnotated_iff h).1 hkind), ← otherEntries_writtenHints h,
    hunresolved, List.map_map, List.map_map]
  simp only [hwritten]
  refine hnames.trans ?_
  constructor
  · intro hall hresolvable name hname a r ha hr
    have hsame := hall (name, a) (mem_otherEntries.2 ⟨mem_of_lookup ha, hname⟩)
    rw [Bool.not_inj_iff] at hsame
    exact settled_eq_iff.1 hsame hresolvable r hr
  · intro hshows e he
    obtain ⟨hmem, hname⟩ := mem_otherEntries.1 he
    have hlookup := (lookup_eq_some_iff_mem (nodup_writtenHints shape)).2 hmem
    rw [Bool.not_inj_iff]
    exact settled_eq_iff.2 fun hresolvable r hr => hshows hresolvable e.1 hname e.2 r hlookup hr

/-- The other declared fields are the same exactly if those of a shape that is described by its annotations are. -/
theorem others_eq_iff : schema.others f shape = schema'.others f shape ↔
    (schema.resolvable shape = true → schema.IsAnnotated shape →
      ∀ name, name ≠ f → schema.ShowsClassVar shape name) := by
  by_cases hkind : schema.IsAnnotated shape
  · rw [forall_comm, forall_prop_of_true hkind, ← otherNames_eq_iff h hunresolved hkind]
    exact others_eq_iff_names h
  · exact iff_of_true (others_of_not_isAnnotated h hkind) fun _ hannotated => absurd hannotated hkind

/-- A field of another name has the same label exactly if a label is attached to it, or resolving its annotation tells
no other header. -/
theorem label_eq_iff {name : Text} (hname : name ≠ f) (tag : Option Text) :
    schema.label shape name tag = schema'.label shape name tag ↔
      (tag.getD [] = [] → schema.resolvable shape = true → schema.ShowsHeader shape name) := by
  have hlookup : (schema'.writtenHints shape).lookup name = (schema.writtenHints shape).lookup name := by
    rw [← lookup_otherEntries hname, ← otherEntries_writtenHints h, lookup_otherEntries hname]
  have huntagged : ((schema.writtenHints shape).lookup name).bind
        (fun a => (settled (schema.resolvable shape) a).header?) =
      ((schema.writtenHints shape).lookup name).bind (fun a => (settled false a).header?) ↔
        (schema.resolvable shape = true → schema.ShowsHeader shape name) := by
    cases ha : (schema.writtenHints shape).lookup name with
    | none => simp [ShowsHeader, ha]
    | some a =>
      have hwritten : settled false a = a.2 := rfl
      rw [Option.bind_some, Option.bind_some, hwritten, settled_eq_iff]
      refine ⟨fun hshows hresolvable b r hb => ?_, fun hshows hresolvable r => hshows hresolvable a r ha⟩
      rw [ha] at hb
      cases hb
      exact hshows hresolvable r
  rw [label_eq, label_eq, hlookup, hunresolved]
  match tag with
  | none | some [] => simpa using huntagged
  | some (c :: rest) => simp

/-- The other fields are the same exactly if resolving their annotations tells nothing of them. -/
theorem otherFields_eq_iff_shows :
    (schema.fields shape).filter (fun g => g.name ≠ f) = (schema'.fields shape).filter (fun g => g.name ≠ f) ↔
      (schema.resolvable shape = true → schema.ShowsOthers f shape) := by
  rw [otherFields_eq_iff h, others_eq_iff h hunresolved]
  constructor
  · rintro ⟨hothers, hlabels⟩ hresolvable
    refine ⟨hothers hresolvable, fun d hd hname htag => ?_⟩
    exact (label_eq_iff h hunresolved hname d.2).1 (hlabels d (mem_otherEntries.2 ⟨hd, hname⟩)) htag hresolvable
  · intro hshows
    refine ⟨fun hresolvable => (hshows hresolvable).1, fun d hd => ?_⟩
    obtain ⟨hd, hname⟩ := mem_otherEntries.1 hd
    exact (label_eq_iff h hunresolved hname d.2).2 fun htag hresolvable => (hshows hresolvable).2 d hd hname htag

end Unresolved

/-- A name that is written as a class variable is no field, whether it is resolved or not. -/
theorem not_mem_fields_of_isClassVar (hkind : schema.IsAnnotated shape) {name : Text} {a : Bool × TypeExpr}
    (ha : (name, a) ∈ schema.writtenHints shape) (hclassVar : a.2.isClassVar = true) :
    name ∉ (schema.fields shape).map Field.name := by
  intro hname
  rw [names_fields, declared_of_isAnnotated hkind, List.map_map] at hname
  obtain ⟨e, he, rfl⟩ := List.mem_map.1 hname
  obtain ⟨hmem, hfield⟩ := List.mem_filter.1 he
  have hsame : e = (e.1, a) := List.inj_on_of_nodup_map (nodup_writtenHints shape) hmem ha rfl
  have hsettled : (settled (schema.resolvable shape) a).isClassVar = a.2.isClassVar :=
    settled_eq_iff.2 fun _ r hr => (TypeExpr.shown_of_resolve? (TypeExpr.isHidden_of_isClassVar hclassVar) hr).1
  rw [hsame, hsettled, hclassVar] at hfield
  cases hfield

/-- One annotation that cannot be resolved leaves the other fields of a shape as they are, in names, order and labels,
exactly if not all annotations could be resolved before, or resolving them told nothing of these fields. This is so where
neither quotes nor alternatives hide what the other annotations say. The names of the fields of data classes and tuples
are kept in any case, and in other shapes what is written as a class variable without quotes is never a field. -/
theorem others_kept_iff {ds ds' : List ShapeDecl} {f shape : Text} {top : Bool} {u : TypeExpr}
    (hsame : SameBut f ds ds') (hwritten : (f, top, .quoted u) ∈ (ofDecls ds').writtenHints shape)
    (hunresolved : (TypeExpr.quoted u).resolve? top = none) :
    (((ofDecls ds').fields shape).filter (fun g => g.name ≠ f) =
        ((ofDecls ds).fields shape).filter (fun g => g.name ≠ f) ↔
      ((ofDecls ds).resolvable shape = true → (ofDecls ds).ShowsOthers f shape)) ∧
    ((∀ a ∈ (ofDecls ds).writtenHints shape, a.1 ≠ f → a.2.2.isHidden = false) →
      ((ofDecls ds').fields shape).filter (fun g => g.name ≠ f) =
        ((ofDecls ds).fields shape).filter (fun g => g.name ≠ f)) ∧
    (¬ (ofDecls ds).IsAnnotated shape →
      (((ofDecls ds').fields shape).filter fun g => g.name ≠ f).map Field.name =
        (((ofDecls ds).fields shape).filter fun g => g.name ≠ f).map Field.name) ∧
    ((ofDecls ds).IsAnnotated shape → ∀ name a, name ≠ f → (name, a) ∈ (ofDecls ds).writtenHints shape →
      a.2.isClassVar = true →
        name ∉ ((ofDecls ds).fields shape).map Field.name ∧ name ∉ ((ofDecls ds').fields shape).map Field.name) := by
  have h := change_masking_of_sameBut hsame
  have hraw : (ofDecls ds').resolvable shape = false := resolvable_eq_false hwritten hunresolved
  have hkept : ((ofDecls ds').fields shape).filter (fun g => g.name ≠ f) =
      ((ofDecls ds).fields shape).filter (fun g => g.name ≠ f) ↔
        ((ofDecls ds).resolvable shape = true → (ofDecls ds).ShowsOthers f shape) :=
    eq_comm.trans (otherFields_eq_iff_shows h hraw)
  refine ⟨hkept, ?_, ?_, ?_⟩
  · intro hhidden
    exact hkept.2 fun _ => showsOthers_of_not_isHidden hhidden
  · intro hkind
    rw [names_otherFields, names_otherFields, others_of_not_isAnnotated h hkind]
  · intro hkind name a hname ha hclassVar
    refine ⟨not_mem_fields_of_isClassVar hkind ha hclassVar, ?_⟩
    have ha' : (name, a) ∈ otherEntries f ((ofDecls ds').writtenHints shape) := by
      rw [← otherEntries_writtenHints h]
      exact mem_otherEntries.2 ⟨ha, hname⟩
    exact not_mem_fields_of_isClassVar ((isAnnotated_iff h).1 hkind) (mem_otherEntries.1 ha').1 hclassVar

/-- A class with a class variable in quotes. -/
def tallyDecl : ShapeDecl where
  name := "Tally"
  kind := .plain
  bases := []
  fields :=
    [⟨"count", .quoted (.qualified .classVar (.builtin "int")), none, none⟩, ⟨"total", .builtin "int", none, none⟩]
  computed := []
  exports := false
  tabular := none

/-- The class with the type of its other attribute unknown. -/
def openTallyDecl : ShapeDecl := tallyDecl.change (replacing "total" (.quoted .unknown))

theorem others_kept_iff_tally :
    SameBut "total" [tallyDecl] [openTallyDecl] ∧
      (("total" : Text), true, TypeExpr.quoted .unknown) ∈ (ofDecls [openTallyDecl]).writtenHints "Tally" ∧
      (TypeExpr.quoted .unknown).resolve? true = none ∧
      ((ofDecls [openTallyDecl]).fields "Tally").filter (fun g => g.name ≠ ("total" : Text)) ≠
        ((ofDecls [tallyDecl]).fields "Tally").filter fun g => g.name ≠ ("total" : Text) := by
  have hsame : SameBut "total" [tallyDecl] [openTallyDecl] := sameBut_replacing _ _ _
  have hwritten :
      (("total" : Text), true, TypeExpr.quoted .unknown) ∈ (ofDecls [openTallyDecl]).writtenHints "Tally" := by
    have hchange := ofDecls_change (replacing "total" (.quoted .unknown)) [tallyDecl]
    rw [List.map_singleton] at hchange
    rw [openTallyDecl, hchange]
    exact mem_writtenHints_replacing (t := .builtin "int") (by decide)
  have hunresolved : (TypeExpr.quoted .unknown).resolve? true = none := rfl
  refine ⟨hsame, hwritten, hunresolved, fun heq => ?_⟩
  have hshows := ((others_kept_iff hsame hwritten hunresolved).1.1 heq rfl).1 ⟨rfl, rfl⟩ "count" (by decide)
  have hcount := hshows _ (.qualified .classVar (.builtin "int")) rfl rfl
  cases hcount

end Schema

end RecordPrint
