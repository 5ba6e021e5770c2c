import RecordPrint.Proofs.Record.Walks
import RecordPrint.Proofs.Schema.Labels

/-!
# Records and labels

What is read, displayed and unfolded of a record does not depend on the labels of its fields.

* `Schema.Alike.attribute_eq` — attributes, from which fields and supplied rows are read;
* `Schema.Alike.shownWithin_eq`, `Schema.Alike.display_eq` — displayed values;
* `Schema.Alike.normalize_eq` — normal forms.
-/

namespace RecordPrint

namespace Value

variable (σ : Store) (schema : Schema) (v : Value) (i : Instance)

/-- What is shown of a record: the fields of a data class go by their names. -/
theorem displayOf_instance : v.displayOf σ schema (.instance i) =
    match schema.dataNames? i.shape, (schema.shape? i.shape).bind Shape.slots with
    | some names, _ => .fields i.shape (names.map fun name => (v.getAttribute σ schema name).map (name, ·))
    | none, some names => .fields i.shape ((names.zip i.items).map .ok)
    | none, none =>
      if schema.isMapping i.shape then .mapping i.entries
      else if schema.isList i.shape then .sequence .list i.items
      else .typeOnly i.shape := by
  simp only [displayOf, Schema.dataNames?]
  cases (schema.shape? i.shape).bind Shape.dataFields with
  | none => cases (schema.shape? i.shape).bind Shape.slots <;> rfl
  | some fields =>
    simp only [Option.map_some, List.map_map]
    rfl

/-- What a record unfolds to: the fields of a data class go by their names. -/
theorem unfoldInstance_eq : v.unfoldInstance σ schema i =
    match schema.dataNames? i.shape, (schema.shape? i.shape).bind Shape.slots with
    | some names, _ => .ok (.entries (names.map fun name => (v.getAttribute σ schema name).map (name, ·)))
    | none, some names => .ok (.entries ((names.zip i.items).map .ok))
    | none, none => (i.export? schema).bind fun
      | some exported => .ok (.standIn exported)
      | none =>
        if schema.isMapping i.shape then .ok (.entries (i.entries.map (displayedEntry σ schema)))
        else if schema.isList i.shape then .ok (.items i.items)
        else v.unfoldDeclared σ schema i := by
  simp only [unfoldInstance, Schema.dataNames?]
  cases (schema.shape? i.shape).bind Shape.dataFields with
  | none => cases (schema.shape? i.shape).bind Shape.slots <;> rfl
  | some fields =>
    simp only [Option.map_some, List.map_map]
    rfl

end Value

namespace Schema.Alike

variable {schema schema' : Schema} (h : schema.Alike schema') (σ : Store)

include h

theorem headers_eq : schema.headers? = schema'.headers? := by
  funext shape
  unfold headers?
  rw [h.attribute? shape headersName]

/-! ### Reading -/

theorem operation_eq (shape name : Text) : schema.operation? shape name = schema'.operation? shape name := by
  unfold operation?
  rw [h.slots shape, h.isList shape]

theorem instance_attribute_eq (i : Instance) (name : Text) : i.attribute? schema name = i.attribute? schema' name := by
  unfold Instance.attribute?
  rw [h.attribute? i.shape name, h.operation_eq i.shape name]

theorem metatype_eq (v : Value) : v.metatype σ schema = v.metatype σ schema' := by
  cases v with
  | member enumeration name mixin content => exact h.metatype enumeration
  | object place =>
    simp only [Value.metatype]
    split
    · exact h.metatype _
    · rfl
  | _ => rfl

theorem attribute_eq : Value.attribute? σ schema = Value.attribute? σ schema' := by
  funext v name
  unfold Value.attribute?
  rw [h.metatype_eq σ v]
  cases v with
  | member enumeration memberName mixin content => simp only [h.attribute? enumeration name]
  | object place => simp only [h.instance_attribute_eq]
  | shape s type => simp only [h.attribute? s name]
  | _ => rfl

theorem getAttribute_eq : Value.getAttribute σ schema = Value.getAttribute σ schema' := by
  funext v name
  unfold Value.getAttribute
  rw [h.attribute_eq σ]

theorem entries_eq : Value.entries? σ schema = Value.entries? σ schema' := by
  funext v
  unfold Value.entries?
  simp only [h.isMapping]

theorem field_eq : Value.field σ schema = Value.field σ schema' := by
  funext v name
  unfold Value.field
  rw [h.entries_eq σ, h.attribute_eq σ]

theorem suppliedRow_eq : Value.suppliedRow σ schema = Value.suppliedRow σ schema' := by
  funext v
  unfold Value.suppliedRow
  simp only [h.attribute?, h.getAttribute_eq σ]

/-! ### Displaying -/

theorem displayOf_eq (v : Value) (node : Node) : v.displayOf σ schema node = v.displayOf σ schema' node := by
  cases node with
  | «instance» i =>
    rw [Value.displayOf_instance, Value.displayOf_instance, h.dataNames, h.slots, h.isMapping, h.isList,
      h.getAttribute_eq σ]
  | _ => rfl

theorem shownWithin_eq : Value.shownWithin σ schema = Value.shownWithin σ schema' := by
  funext opened v
  induction opened, v using Value.walk_induction (σ := σ) with
  | target opened w ih => simp only [Value.shownWithin, ih]
  | content opened s n m w ih => simp only [Value.shownWithin, ih]
  | enter opened place inside new ih =>
    rw [Value.shownWithin.eq_def, Value.shownWithin.eq_def]
    simp only [dif_pos inside, dif_neg new, h.displayOf_eq σ, ih]
  | stop opened v hend =>
    cases v with
    | ref w => cases hend
    | member s n m w => cases hend
    | object place =>
      rw [Value.shownWithin.eq_def, Value.shownWithin.eq_def]
      by_cases inside : place < σ.size
      · simp only [dif_pos inside, dif_pos (hend inside), h.displayOf_eq σ]
      · simp only [dif_neg inside]
    | refined s shown form => cases s <;> rw [Value.shownWithin.eq_def, Value.shownWithin.eq_def]
    | _ => rw [Value.shownWithin.eq_def, Value.shownWithin.eq_def]

theorem display_eq : Value.display σ schema = Value.display σ schema' := by
  funext v
  induction v with
  | member enumeration name mixin content ih => simp only [Value.display, ih]
  | _ => simp only [Value.display, h.shownWithin_eq σ]

/-! ### Unfolding -/

theorem export_eq (i : Instance) : i.export? schema = i.export? schema' := by
  unfold Instance.export?
  rw [h.attribute? i.shape exporterName, h.instance_attribute_eq i exporterName]

theorem unfoldDeclared_eq (v : Value) (i : Instance) :
    v.unfoldDeclared σ schema i = v.unfoldDeclared σ schema' i := by
  have hentries : (schema.fields i.shape).map (fun f => v.declaredEntry σ schema f.name) =
      (schema'.fields i.shape).map fun f => v.declaredEntry σ schema' f.name := by
    have hnames := congrArg (List.map (v.declaredEntry σ schema)) (h.names i.shape)
    simp only [List.map_map, Function.comp_def] at hnames
    rw [hnames]
    simp only [Value.declaredEntry, h.field_eq σ]
  unfold Value.unfoldDeclared
  rw [h.headers_eq, h.suppliedRow_eq σ]
  split
  · rfl
  · rfl
  · cases hfields : schema.fields i.shape with
    | nil =>
      have hnames := h.names i.shape
      rw [hfields, List.map_nil, eq_comm, List.map_eq_nil_iff] at hnames
      rw [hnames]
    | cons f fs =>
      cases hfields' : schema'.fields i.shape with
      | nil =>
        have hnames := h.names i.shape
        rw [hfields, hfields'] at hnames
        cases hnames
      | cons f' fs' =>
        rw [hfields, hfields'] at hentries
        simp only [hentries]

theorem unfold_eq (v : Value) (node : Node) : v.unfold σ schema node = v.unfold σ schema' node := by
  have hdisplayed : Value.displayedEntry σ schema = Value.displayedEntry σ schema' := by
    funext e
    unfold Value.displayedEntry
    rw [h.display_eq σ]
  cases node with
  | sequence kind items => rfl
  | mapping type entries => simp only [Value.unfold, hdisplayed]
  | «instance» i =>
    have hinstance := Value.unfoldInstance_eq σ schema v i
    rw [h.dataNames, h.slots, h.export_eq i, h.isMapping, h.isList, h.unfoldDeclared_eq σ v i, hdisplayed,
      h.getAttribute_eq σ] at hinstance
    exact hinstance.trans (Value.unfoldInstance_eq σ schema' v i).symm

theorem outcome_eq : Value.outcome σ schema = Value.outcome σ schema' := by
  funext active v
  induction active, v using Value.walk_induction (σ := σ) with
  | target active w ih => rw [Value.outcome_ref, Value.outcome_ref, ih]
  | content active s n m w ih => rw [Value.outcome_member, Value.outcome_member, ih]
  | enter active place inside new ih =>
    have hparts : Value.outcome σ schema (place :: active) = Value.outcome σ schema' (place :: active) := funext ih
    rw [Value.outcome_object inside new, Value.outcome_object inside new, h.unfold_eq σ, hparts]
  | stop active v hend =>
    cases v with
    | ref w => cases hend
    | member s n m w => cases hend
    | object place =>
      by_cases inside : place < σ.size
      · rw [Value.outcome_circular inside (hend inside), Value.outcome_circular inside (hend inside)]
      · rw [Value.outcome_nowhere inside, Value.outcome_nowhere inside]
    | _ => simp only [Value.outcome, Value.normalizeWithin]

theorem normalize_eq : Value.normalize σ schema = Value.normalize σ schema' := by
  have houtcome := congrFun (h.outcome_eq σ) []
  exact houtcome

end Schema.Alike

end RecordPrint
