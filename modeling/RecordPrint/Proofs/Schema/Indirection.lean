import RecordPrint.Table.Layout
import RecordPrint.Proofs.Outcome

/-!
# Levels of indirection

A record type is described behind one level of indirection, but the columns of a table are those of the record type
behind two, since the table takes one level off before it asks for the description. From a record only one level is
taken.

* `columns_eq_describe_iff` — the types whose tables have the columns of their description;
* `columns_nested` — types spelled with two levels;
* `rows_nested` — what that means for records behind two levels: none of the columns finds its value.
-/

namespace RecordPrint

variable {σ : Store} {schema : Schema}

namespace TypeExpr

/-- A type of its own: neither several alternatives nor nothing. -/
inductive IsSingle : TypeExpr → Prop
  | builtin (name : Text) : IsSingle (builtin name)
  | shape (name : Text) : IsSingle (shape name)
  | reference : IsSingle reference
  | ref (target : TypeExpr) : IsSingle (ref target)
  | listOf (item : TypeExpr) : IsSingle (listOf item)
  | mapOf (key value : TypeExpr) : IsSingle (mapOf key value)

theorem deref_optional {u : TypeExpr} (hu : u.IsSingle) : (either u absent).deref = u := by
  cases hu <;> simp [deref, alternatives, List.eraseDups_cons]

end TypeExpr

namespace Schema

/-- The fields of a record type itself. -/
def ownFields (schema : Schema) : TypeExpr → List Field
  | .shape name => schema.fields name
  | .ref _ | .reference => [.unlabelled "target"]
  | _ => []

theorem describe_eq (t : TypeExpr) : schema.describe t = schema.ownFields t.deref := by
  unfold describe ownFields
  cases t.deref <;> rfl

/-- One level of indirection less leaves the fields of a type as they are: there is no such level, or it is that of a
reference to what has the fields of a reference, or that of an alternative to nothing without fields. -/
theorem ownFields_deref_iff (t : TypeExpr) : schema.ownFields t.deref = schema.ownFields t ↔
    t.deref = t ∨ (∃ u, t = .ref u ∧ schema.ownFields u = [.unlabelled "target"]) ∨
      (∃ a b, t = .either a b ∧ schema.ownFields t.deref = []) := by
  constructor
  · intro h
    cases t with
    | ref u => exact .inr (.inl ⟨u, rfl, h⟩)
    | either a b => exact .inr (.inr ⟨a, b, rfl, h⟩)
    | _ => exact .inl rfl
  · rintro (h | ⟨u, rfl, h⟩ | ⟨a, b, rfl, h⟩)
    · rw [h]
    · exact h
    · exact h

end Schema

namespace Layout

variable {records : List Value}

/-- The columns of a table whose record type is given are described behind another level of indirection. -/
theorem columns_of_type (t : TypeExpr) (h : schema.describe t.deref ≠ [] ∨ records = []) :
    Layout.columns ⟨some t, none⟩ σ schema records = .ok (schema.describe t.deref) := by
  unfold Layout.columns
  simp only [rowType, Option.map_some, Option.getD_some]
  cases hfields : schema.describe t.deref with
  | nil =>
    rcases h with h | rfl
    · exact absurd hfields h
    · rfl
  | cons f fs => rfl

/-- A table without records has the columns of its record type behind two levels of indirection. -/
theorem columns_of_empty (t : TypeExpr) :
    Layout.columns ⟨some t, none⟩ σ schema [] = .ok (schema.ownFields t.deref.deref) := by
  rw [columns_of_type t (.inr rfl), Schema.describe_eq]

/-- The rows of such a table, whose records are read behind one level of indirection. -/
theorem rows_of_type {t : TypeExpr} (h : schema.ownFields t.deref.deref ≠ [])
    (hsupplied : Layout.suppliedHeaders? ⟨some t, none⟩ σ schema records = none) :
    Layout.rows ⟨some t, none⟩ σ schema records =
      (records.mapM fun r =>
        ((schema.ownFields t.deref.deref).mapM (cellOf σ schema r.deref)).map (·.map Value.text)).map
          (((schema.ownFields t.deref.deref).map fun f => .text f.header) :: ·) := by
  have hcolumns : Layout.columns ⟨some t, none⟩ σ schema records = .ok (schema.describe t.deref) :=
    columns_of_type t (.inl (Schema.describe_eq t.deref ▸ h))
  rw [Schema.describe_eq] at hcolumns
  simp only [Layout.rows, hsupplied, hcolumns]
  rfl

/-- A table without records has the columns of its record type behind two levels of indirection. These are the columns
of its description, behind one level, exactly if the second level is none or does not show. From the records of a table
one level is taken, whatever its columns are. -/
theorem columns_eq_describe_iff (σ : Store) (schema : Schema) (t : TypeExpr) :
    Layout.columns ⟨some t, none⟩ σ schema [] = .ok (schema.ownFields t.deref.deref) ∧
    (Layout.columns ⟨some t, none⟩ σ schema [] = .ok (schema.describe t) ↔
      t.deref.deref = t.deref ∨
      (∃ u, t.deref = .ref u ∧ schema.ownFields u = [.unlabelled "target"]) ∨
      (∃ a b, t.deref = .either a b ∧ schema.ownFields (TypeExpr.either a b).deref = [])) ∧
    ∀ records, schema.ownFields t.deref.deref ≠ [] →
      Layout.suppliedHeaders? ⟨some t, none⟩ σ schema records = none →
      Layout.rows ⟨some t, none⟩ σ schema records =
        (records.mapM fun r =>
          ((schema.ownFields t.deref.deref).mapM (cellOf σ schema r.deref)).map (·.map Value.text)).map
            (((schema.ownFields t.deref.deref).map fun f => .text f.header) :: ·) := by
  refine ⟨columns_of_empty t, ?_, fun records hfields hsupplied => rows_of_type hfields hsupplied⟩
  rw [columns_of_empty, Schema.describe_eq, Except.ok.injEq, Schema.ownFields_deref_iff]
  constructor
  · rintro (h | h | ⟨a, b, hab, h⟩)
    · exact .inl h
    · exact .inr (.inl h)
    · exact .inr (.inr ⟨a, b, hab, hab ▸ h⟩)
  · rintro (h | h | ⟨a, b, hab, h⟩)
    · exact .inl h
    · exact .inr (.inl h)
    · exact .inr (.inr ⟨a, b, hab, hab.symm ▸ h⟩)

/-- A shape with one field. -/
def pointSchema : Schema := .ofDecls [⟨"Point", .data, [], [⟨"x", .builtin "int", none, none⟩], [], false, none, []⟩]

/-- The type of references to references to points. -/
def pointReference : TypeExpr := .ref (.ref (.shape "Point"))

theorem columns_pointReference :
    Layout.columns ⟨some pointReference, none⟩ #[] pointSchema [] = .ok [.unlabelled "x"] ∧
      Layout.columns ⟨some pointReference, none⟩ #[] pointSchema [] ≠ .ok (pointSchema.describe pointReference) ∧
      Layout.rows ⟨some pointReference, none⟩ #[] pointSchema [.ref (.ref (.int 1))] = .ok [[.text "x"], [.text []]] := by
  obtain ⟨hcolumns, hdescribe, hrows⟩ := columns_eq_describe_iff #[] pointSchema pointReference
  have hfields : pointSchema.ownFields pointReference.deref.deref = [.unlabelled "x"] := rfl
  refine ⟨by rw [hcolumns, hfields], ?_, ?_⟩
  · rw [ne_eq, hdescribe]
    rintro (h | ⟨u, hu, h⟩ | ⟨a, b, h, -⟩)
    · cases h
    · cases hu
      exact absurd h (by decide)
    · cases h
  · rw [hrows _ (hfields ▸ List.cons_ne_nil _ _) rfl]
    rfl

/-- A reference to a reference to a type, an optional reference to it and a reference to an optional one: the table has
the columns of the type itself, the description is that of a reference or empty. -/
theorem columns_nested (σ : Store) (schema : Schema) {u : TypeExpr} (hu : u.IsSingle) :
    (Layout.columns ⟨some (.ref (.ref u)), none⟩ σ schema [] = .ok (schema.ownFields u) ∧
      schema.describe (.ref (.ref u)) = [.unlabelled "target"]) ∧
    (Layout.columns ⟨some (.either (.ref u) .absent), none⟩ σ schema [] = .ok (schema.ownFields u) ∧
      schema.describe (.either (.ref u) .absent) = [.unlabelled "target"]) ∧
    (Layout.columns ⟨some (.ref (.either u .absent)), none⟩ σ schema [] = .ok (schema.ownFields u) ∧
      schema.describe (.ref (.either u .absent)) = []) := by
  have houter : (TypeExpr.either (.ref u) .absent).deref = .ref u := TypeExpr.deref_optional (.ref u)
  have hinner : (TypeExpr.ref (.either u .absent)).deref.deref = u := TypeExpr.deref_optional hu
  refine ⟨⟨?_, rfl⟩, ⟨?_, ?_⟩, ?_, rfl⟩
  · exact columns_of_empty (.ref (.ref u))
  · rw [columns_of_empty, houter]
    rfl
  · rw [Schema.describe_eq, houter]
    rfl
  · rw [columns_of_empty, hinner]

/-- A reference has none of the fields of a shape, unless the shape declares what every reference has. -/
theorem cellOf_ref {v : Value} {f : Field} (htarget : f.name ≠ "target") (htype : f.name ≠ Value.typeAttribute) :
    cellOf σ schema (.ref v) f = .ok [] := by
  have hattribute : (Value.ref v).attribute? σ schema f.name = .ok none := by
    simp only [Value.attribute?, if_neg htype, if_neg htarget]
  have hfield : (Value.ref v).field σ schema f.name = .ok .missing := by
    simp only [Value.field, Value.entries?, hattribute, Option.getD_none]
  simp only [cellOf, hfield, bind, Except.bind, if_pos, pure, Except.pure]

/-- Records behind two levels of indirection, in a table whose record type says so: the columns are those of the
shape, but the records are read behind one level, so that no record shows any of its values. -/
theorem rows_nested {name : Text} (hfields : schema.fields name ≠ [])
    (hnames : ∀ f ∈ schema.fields name, f.name ≠ "target" ∧ f.name ≠ Value.typeAttribute) (vs : List Value) :
    Layout.rows ⟨some (.ref (.ref (.shape name))), none⟩ σ schema (vs.map fun v => .ref (.ref v)) =
      .ok (((schema.fields name).map fun f => .text f.header) ::
        vs.map fun _ => (schema.fields name).map fun _ => .text []) := by
  have hrow : ∀ v, ((schema.fields name).mapM (cellOf σ schema (.ref v))).map (·.map Value.text) =
      .ok ((schema.fields name).map fun _ => .text []) := by
    intro v
    have hcells : (schema.fields name).mapM (cellOf σ schema (.ref v)) = .ok ((schema.fields name).map fun _ => []) :=
      mapM_eq_ok_map fun f hf => cellOf_ref (hnames f hf).1 (hnames f hf).2
    rw [hcells, Except.map, List.map_map]
    rfl
  rw [rows_of_type (t := .ref (.ref (.shape name))) hfields rfl, map_eq_ok_iff]
  refine ⟨vs.map fun _ => (schema.fields name).map fun _ => .text [], ?_, rfl⟩
  rw [mapM_eq_ok_iff, List.forall₂_map_left_iff, List.forall₂_map_right_iff, List.forall₂_same]
  exact fun v _ => hrow v

end Layout

end RecordPrint
