import RecordPrint.Proofs.Schema.Resolution

/-!
# Column marks

A label that is attached to the declaration of a field is its header. Without one, the header is what the first column
mark says that stands at the top of the annotation, once this has been resolved. A mark behind one of the words that say
whether a key is required, or that a name is final, is not looked for: there the header is the name of the field.

* `TypeExpr.column?` — the header that an annotation gives, at its top or behind such words;
* `Schema.attached` — the label that is attached to the declaration of a field;
* `Schema.header_of_mem` — the header of a field, from its label and its annotation;
* `Schema.header_eq_column_iff` — the header is that of the first mark, unless all marks stand behind such a word.
-/

namespace RecordPrint

/-- The header that a mark gives. -/
def Mark.header? : Mark → Option Text
  | column header => some header
  | note _ | number _ => none

namespace TypeExpr

/-- The marks behind the words that say how a field is declared. -/
def innerMarks : TypeExpr → List Mark
  | annotated t _ => t.innerMarks
  | qualified .required t | qualified .notRequired t | qualified .final t => t.marks ++ t.innerMarks
  | _ => []

/-- The header that the first column mark of an expression gives, at its top or else behind such words. -/
def column? (t : TypeExpr) : Option Text := (t.marks ++ t.innerMarks).findSome? Mark.header?

/-- Whether an expression is, behind any marks, qualified by such a word. -/
def isQualified (t : TypeExpr) : Bool :=
  match t.unannotated with
  | qualified .required _ | qualified .notRequired _ | qualified .final _ => true
  | _ => false

theorem header?_eq (t : TypeExpr) : t.header? = t.marks.findSome? Mark.header? := by
  unfold header?
  congr 1

/-- A mark at the top comes first. -/
theorem column?_eq (t : TypeExpr) : t.column? = t.header?.or (t.innerMarks.findSome? Mark.header?) := by
  rw [column?, List.findSome?_append, header?_eq]

/-- Without such a word there is no other mark. -/
theorem innerMarks_of_not_isQualified {t : TypeExpr} (h : t.isQualified = false) : t.innerMarks = [] := by
  induction t with
  | annotated t marks ih => exact ih h
  | qualified q t =>
    cases q with
    | classVar | initVar => rfl
    | required | notRequired | final => cases h
  | _ => rfl

end TypeExpr

theorem Field.header_eq (f : Field) : f.header = if f.label.getD [] = [] then f.name else f.label.getD [] := by
  obtain ⟨name, label⟩ := f
  match label with
  | none | some [] => rfl
  | some (c :: rest) => rfl

namespace Schema

variable {schema : Schema} {shape : Text}

/-- The label that is attached to the declaration of a field, empty if there is none. -/
def attached (schema : Schema) (shape name : Text) : Text := ((schema.declared shape).lookup name).join.getD []

/-- What the annotation of a field gives as its header, empty if it gives none. -/
def marked (schema : Schema) (shape name : Text) : Text :=
  (((schema.writtenHints shape).lookup name).bind fun a => (settled (schema.resolvable shape) a).header?).getD []

/-- Only fields of data classes, and of what descends from them, have labels attached to them. -/
theorem attached_eq_nil (h : (schema.shape? shape).bind Shape.dataFields = none) (name : Text) :
    schema.attached shape name = [] := by
  have huntagged : ∀ {α : Type} (names : List α) (g : α → Text),
      ((names.map fun a => (g a, (none : Option Text))).lookup name).join.getD [] = [] := by
    intro α names g
    cases hlookup : (names.map fun a => (g a, (none : Option Text))).lookup name with
    | none => rfl
    | some tag =>
      obtain ⟨a, -, ha⟩ := List.mem_map.1 (mem_of_lookup hlookup)
      cases ha
      rfl
  rw [attached]
  cases hslots : (schema.shape? shape).bind Shape.slots with
  | none =>
    rw [declared_of_isAnnotated ⟨h, hslots⟩]
    exact huntagged _ _
  | some names =>
    rw [declared_of_slots h hslots]
    exact huntagged _ _

/-- The header of a field is the label attached to it, or else what its annotation gives, or else its name. -/
theorem header_of_mem (h : schema.Declared) {f : Field} (hf : f ∈ schema.fields shape) : f.header =
    if schema.attached shape f.name = [] then
      if schema.marked shape f.name = [] then f.name else schema.marked shape f.name
    else schema.attached shape f.name := by
  obtain ⟨⟨name, tag⟩, hd, rfl⟩ := List.mem_map.1 hf
  have hnodup : ((schema.declared shape).map Prod.fst).Nodup := by
    rw [← names_fields]
    exact h.nodup_fields shape
  have hattached : schema.attached shape name = tag.getD [] := by
    rw [attached, (lookup_eq_some_iff_mem hnodup).2 hd]
    rfl
  rw [hattached, Field.header_eq]
  simp only [label_eq]
  match tag with
  | none | some [] | some (_ :: _) => rfl

/-- Where all annotations can be resolved, an annotation gives what its resolved form says at the top. -/
theorem marked_eq (hresolvable : schema.resolvable shape = true) {name : Text} {a : Bool × TypeExpr} {r : TypeExpr}
    (ha : (name, a) ∈ schema.writtenHints shape) (hr : a.2.resolve? a.1 = some r) :
    schema.marked shape name = r.header?.getD [] := by
  rw [marked, (lookup_eq_some_iff_mem (nodup_writtenHints shape)).2 ha, Option.bind_some, settled, if_pos hresolvable, hr]
  rfl

/-- A label that is attached to the declaration of a field is its header. Without one, and with a column mark in the
annotation, at its top or behind the words that say how a field is declared, the header is that of the first mark exactly
if it stands at the top, or the field happens to have its name. So it is without such words, and where one of them stands
in front, the header is the name of the field. Only fields of data classes have labels attached to them. -/
theorem header_eq_column_iff (h : schema.Declared) (hresolvable : schema.resolvable shape = true) {f : Field}
    (hf : f ∈ schema.describe (.shape shape)) :
    (schema.attached shape f.name ≠ [] → f.header = schema.attached shape f.name) ∧
    ((schema.shape? shape).bind Shape.dataFields = none → schema.attached shape f.name = []) ∧
    (schema.attached shape f.name = [] → ∀ a, (f.name, a) ∈ schema.writtenHints shape →
      ∃ r, a.2.resolve? a.1 = some r ∧ ∀ text, r.column? = some text → text ≠ [] →
        (f.header = text ↔ r.header? = some text ∨ f.name = text) ∧
        (r.isQualified = false → f.header = text) ∧
        (∀ q t, r = .qualified q t → f.header = f.name)) := by
  have hheader := header_of_mem h hf
  refine ⟨fun hattached => by rw [hheader, if_neg hattached], fun hdata => attached_eq_nil hdata f.name, ?_⟩
  intro hattached a ha
  obtain ⟨r, hr⟩ := Option.isSome_iff_exists.1 (isSome_resolve?_of_mem hresolvable ha)
  refine ⟨r, hr, fun text hcolumn htext => ?_⟩
  rw [if_pos hattached, marked_eq hresolvable ha hr] at hheader
  rw [TypeExpr.column?_eq] at hcolumn
  cases htop : r.header? with
  | some top =>
    rw [htop, Option.some_or, Option.some.injEq] at hcolumn
    subst hcolumn
    rw [htop, Option.getD_some, if_neg htext] at hheader
    refine ⟨⟨fun _ => .inl rfl, fun _ => hheader⟩, fun _ => hheader, ?_⟩
    rintro q t rfl
    cases htop
  | none =>
    rw [htop, Option.getD_none, if_pos rfl] at hheader
    refine ⟨?_, ?_, fun _ _ _ => hheader⟩
    · rw [hheader]
      exact ⟨.inr, fun hname => hname.resolve_left (by simp)⟩
    · intro hqualified
      rw [htop, TypeExpr.innerMarks_of_not_isQualified hqualified] at hcolumn
      cases hcolumn

/-- A dictionary with a key that may be missing, and whose annotation has a column mark. -/
def entryDecl : ShapeDecl where
  name := "Entry"
  kind := .dictionary
  bases := []
  fields :=
    [⟨"id", .qualified .notRequired (.annotated (.builtin "int") [.column "ID"]), none, none⟩,
      ⟨"price", .annotated (.builtin "int") [.number 2, .column "Price"], none, none⟩]
  computed := []
  exports := false
  tabular := none

theorem header_eq_column_iff_entry :
    (Schema.ofDecls [entryDecl]).Declared ∧
      (Schema.ofDecls [entryDecl]).describe (.shape "Entry") = [⟨"id", none⟩, ⟨"price", some "Price"⟩] ∧
      (TypeExpr.qualified .notRequired (.annotated (.builtin "int") [.column "ID"])).column? = some "ID" ∧
      Field.header ⟨"id", none⟩ ≠ "ID" := by
  have hdeclared : (Schema.ofDecls [entryDecl]).Declared := by
    refine .declare .empty ⟨rfl, fun name h => ?_, fun h => ?_⟩
    · cases h
    · cases h
  have hdescribe : (Schema.ofDecls [entryDecl]).describe (.shape "Entry") = [⟨"id", none⟩, ⟨"price", some "Price"⟩] := rfl
  refine ⟨hdeclared, hdescribe, rfl, fun heq => ?_⟩
  have hid : (⟨"id", none⟩ : Field) ∈ (Schema.ofDecls [entryDecl]).describe (.shape "Entry") := by simp [hdescribe]
  obtain ⟨-, hnone, hmarks⟩ := header_eq_column_iff hdeclared rfl hid
  obtain ⟨r, hr, hfirst⟩ := hmarks (hnone rfl) (false, .qualified .notRequired (.annotated (.builtin "int") [.column "ID"]))
    (by decide)
  cases hr
  rcases (hfirst "ID" rfl (by decide)).1.1 heq with htop | hname
  · cases htop
  · revert hname
    decide

end Schema

end RecordPrint
