import RecordPrint.Proofs.Record.Labels
import RecordPrint.Proofs.Record.Shared

/-!
# Values behind references

What becomes of a value when references are put around the values that it holds.

* `Value.WrappedAs`, `Store.WrappedAs` — a value with references around it, and a store whose objects hold such values;
* `Store.WrappedAs.unfold_agree` — each object unfolds to the same parts, with references around them;
* `Store.WrappedAs.normalize_eq` — so a value with references around it has the same normal form, or the same fault.
-/

namespace RecordPrint

/-- A value with any number of references around it; none around the mark of a value that does not exist. -/
inductive Value.WrappedAs : Value → Value → Prop where
  | self (v : Value) : WrappedAs v v
  | ref {v w : Value} : v ≠ missing → WrappedAs v w → WrappedAs v (.ref w)

/-- An entry with references around its value; its key leads to objects at the given places only. -/
structure Value.EntryWrappedAs (K : Nat → Prop) (e e' : Value × Value) : Prop where
  key : e'.1 = e.1
  within : e.1.Within K
  value : e.2.WrappedAs e'.2

/-- Whether the normal form of a record is made of the cells that it supplies itself. -/
def Instance.SuppliesCells (schema : Schema) (i : Instance) : Prop :=
  schema.dataNames? i.shape = none ∧ (schema.shape? i.shape).bind Shape.slots = none ∧ i.export? schema = .ok none ∧
    schema.isMapping i.shape = false ∧ schema.isList i.shape = false ∧
    ∃ headers, schema.headers? i.shape = some (some headers)

/-- The names of the attributes that are the cells of a record. -/
def Instance.cellNames (schema : Schema) (i : Instance) : List Text :=
  match schema.attribute? i.shape rowName with
  | some (.row (some names)) => names
  | _ => []

/-- A record with references around the values that it holds and exports. What stands in the way of calling a method
of the record is the same, and so are the cells that it supplies itself; these lead to objects at the given places
only. -/
structure Instance.WrappedAs (schema : Schema) (K : Nat → Prop) (i j : Instance) : Prop where
  shape : j.shape = i.shape
  attributes : ∀ name, Agree (Option.Rel Value.WrappedAs) (i.attribute? schema name) (j.attribute? schema name)
  items : List.Forall₂ Value.WrappedAs i.items j.items
  entries : List.Forall₂ (Value.EntryWrappedAs K) i.entries j.entries
  exported : Agree Value.WrappedAs i.exported j.exported
  exporter : j.attributes.lookup exporterName = i.attributes.lookup exporterName
  row : i.SuppliesCells schema → j.attributes.lookup rowName = i.attributes.lookup rowName ∧
    j.attribute? schema rowName = i.attribute? schema rowName
  cells : i.SuppliesCells schema → ∀ name ∈ i.cellNames schema, j.attribute? schema name = i.attribute? schema name ∧
    ∀ v, i.attribute? schema name = .ok (some v) → v.Within K

/-- An object with references around the values that it holds; the items of sets are the same. -/
inductive Node.WrappedAs (schema : Schema) (K : Nat → Prop) : Node → Node → Prop where
  | list {vs ws : List Value} : List.Forall₂ Value.WrappedAs vs ws →
    WrappedAs schema K (.sequence .list vs) (.sequence .list ws)
  | tuple {vs ws : List Value} : List.Forall₂ Value.WrappedAs vs ws →
    WrappedAs schema K (.sequence .tuple vs) (.sequence .tuple ws)
  | set (vs : List Value) : WrappedAs schema K (.sequence .set vs) (.sequence .set vs)
  | frozenSet (vs : List Value) : WrappedAs schema K (.sequence .frozenSet vs) (.sequence .frozenSet vs)
  | mapping {type : Text} {es es' : List (Value × Value)} : List.Forall₂ (Value.EntryWrappedAs K) es es' →
    WrappedAs schema K (.mapping type es) (.mapping type es')
  | «instance» {i j : Instance} : i.WrappedAs schema K j → WrappedAs schema K (.instance i) (.instance j)

/-- A store whose objects hold the values of another with references around them. The objects at the given places,
which keys and cells lead to, are the same. -/
structure Store.WrappedAs (schema : Schema) (K : Nat → Prop) (σ σ' : Store) : Prop where
  size : σ'.size = σ.size
  node : ∀ place (inside : place < σ.size) (inside' : place < σ'.size), σ[place].WrappedAs schema K σ'[place]
  shares : σ.Shares schema K σ'

/-- Two entries of one name, of which the second has references around the value of the first. -/
def Value.NamedWrappedAs (p q : Text × Value) : Prop := q.1 = p.1 ∧ p.2.WrappedAs q.2

/-- A step of unfolding with references around what it leads to; cells lead to objects at the given places only. -/
inductive Unfolding.WrappedAs (K : Nat → Prop) : Unfolding → Unfolding → Prop where
  | entries {es es' : List (Except Fault (Text × Value))} :
    List.Forall₂ (Agree Value.NamedWrappedAs) es es' → WrappedAs K (.entries es) (.entries es')
  | items {vs ws : List Value} : List.Forall₂ Value.WrappedAs vs ws → WrappedAs K (.items vs) (.items ws)
  | standIn {v w : Value} : v.WrappedAs w → WrappedAs K (.standIn v) (.standIn w)
  | cells {cs : List (Text × Value)} : (∀ c ∈ cs, c.2.Within K) → WrappedAs K (.cells cs) (.cells cs)
  | atomic : WrappedAs K .atomic .atomic

namespace Value

variable {schema : Schema} {K : Nat → Prop} {σ : Store}

theorem WrappedAs.missing_iff {v w : Value} (h : v.WrappedAs w) : w = missing ↔ v = missing := by
  cases h with
  | self => rfl
  | ref hv h => simp [hv]

/-- References around a value do not change what the walk to its normal form comes to. -/
theorem WrappedAs.outcome_eq {v w : Value} (h : v.WrappedAs w) (active : List Nat) :
    outcome σ schema active w = outcome σ schema active v := by
  induction h with
  | self => rfl
  | ref hv h ih => rw [outcome_ref, ih]

theorem wrappedAs_same (vs : List Value) : List.Forall₂ WrappedAs vs vs := List.forall₂_same.2 fun v _ => .self v

end Value

/-- Named items with references around them. -/
theorem Unfolding.forall₂_zip {vs ws : List Value} (h : List.Forall₂ Value.WrappedAs vs ws) (names : List Text) :
    List.Forall₂ Value.NamedWrappedAs (names.zip vs) (names.zip ws) := by
  induction h generalizing names with
  | nil => simp
  | cons hvw _ ih =>
    cases names with
    | nil => exact .nil
    | cons name names => exact .cons ⟨rfl, hvw⟩ (ih names)

/-- What a step of unfolding comes to is the same if the values it leads to are. -/
theorem Unfolding.WrappedAs.assemble_eq {K : Nat → Prop} {u u' : Unfolding} (h : u.WrappedAs K u')
    {f g : Value → Except Fault (Tree Value)} (hfg : ∀ v w, v.WrappedAs w → f v = g w) (v : Value) :
    u.assemble v f = u'.assemble v g := by
  cases h with
  | entries hes =>
    have hentry : ∀ e e', Agree Value.NamedWrappedAs e e' → mapEntry f e = mapEntry g e' := by
      intro e e' h
      refine h.bind_eq ?_
      rintro ⟨name, v⟩ ⟨name', w⟩ ⟨rfl, hvw⟩
      exact congrArg (Except.map _) (hfg v w hvw)
    exact congrArg (Except.map _) (mapM_congr hes hentry)
  | items hvs => exact congrArg (Except.map _) (mapM_congr hvs hfg)
  | standIn hvw => exact hfg _ _ hvw
  | cells => rfl
  | atomic => rfl

/-! ### Reading -/

namespace Instance.WrappedAs

variable {schema : Schema} {K : Nat → Prop} {σ σ' : Store} {place : Nat} {i j : Instance}
  (hij : i.WrappedAs schema K j) (hi : σ[place]? = some (.instance i)) (hj : σ'[place]? = some (.instance j))

include hij

theorem export_agree : Agree (Option.Rel Value.WrappedAs) (i.export? schema) (j.export? schema) := by
  unfold Instance.export?
  rw [hij.shape, hij.exporter]
  split
  · exact hij.exported.map fun v w hvw => .some hvw
  · have hfound := hij.attributes exporterName
    generalize i.attribute? schema exporterName = found, j.attribute? schema exporterName = found' at hfound ⊢
    cases hfound with
    | fault e =>
      dsimp only
      split
      · exact .result .none
      · exact .fault e
    | result => exact .result .none
  · exact .result .none

include hi

/-- The cells that a record supplies lead to objects at the given places only. -/
theorem cell_within (hcells : i.SuppliesCells schema) {row : List Value}
    (hrow : (Value.object place).suppliedRow σ schema = .ok row) {v : Value} (hv : v ∈ row) : v.Within K := by
  have hnames := hij.cells hcells
  unfold Instance.cellNames at hnames
  simp only [Value.suppliedRow, hi] at hrow
  split at hrow
  · rename_i names hdeclared hnone
    rw [hdeclared] at hnames
    obtain ⟨name, hname, hget⟩ := exists_of_mapM_eq_ok hrow hv
    obtain ⟨found, hfound, hreturn⟩ := bind_eq_ok_iff.1 hget
    cases found with
    | none => cases hreturn
    | some w =>
      cases hreturn
      unfold Value.attribute? at hfound
      split at hfound
      · cases hfound
        trivial
      · simp only [hi] at hfound
        exact (hnames name hname).2 v hfound
  · cases hrow
  · obtain ⟨w, -, hrefuse⟩ := bind_eq_ok_iff.1 hrow
    cases hrefuse

include hj

theorem metatype_eq : (Value.object place).metatype σ' schema = (Value.object place).metatype σ schema := by
  simp only [Value.metatype, hi, hj, hij.shape]

theorem attribute_agree (name : Text) : Agree (Option.Rel Value.WrappedAs)
    ((Value.object place).attribute? σ schema name) ((Value.object place).attribute? σ' schema name) := by
  unfold Value.attribute?
  rw [hij.metatype_eq hi hj]
  by_cases hname : name = Value.typeAttribute
  · rw [if_pos hname, if_pos hname]
    exact .result (.some (.self _))
  · simp only [if_neg hname, hi, hj]
    exact hij.attributes name

theorem declaredEntry_agree (hmapping : schema.isMapping i.shape = false) (name : Text) :
    Agree Value.NamedWrappedAs ((Value.object place).declaredEntry σ schema name)
      ((Value.object place).declaredEntry σ' schema name) := by
  have hfield : Agree Value.WrappedAs ((Value.object place).field σ schema name)
      ((Value.object place).field σ' schema name) := by
    unfold Value.field
    simp only [Value.entries?, hi, hj, hij.shape, hmapping, Bool.false_eq_true, if_false]
    have hfound := hij.attribute_agree hi hj name
    generalize (Value.object place).attribute? σ schema name = found,
      (Value.object place).attribute? σ' schema name = found' at hfound ⊢
    cases hfound with
    | fault e => exact .same .self _
    | result hfound =>
      cases hfound with
      | some hvw => exact .result hvw
      | none => exact .result (.self _)
  refine hfield.map fun v w hvw => ⟨rfl, ?_⟩
  by_cases hv : v = .missing
  · rw [if_pos hv, if_pos (hvw.missing_iff.2 hv)]
    exact .self _
  · rw [if_neg hv, if_neg (mt hvw.missing_iff.1 hv)]
    exact hvw

end Instance.WrappedAs

/-! ### Attributes -/

theorem rel_lookup {α β : Type} {R : α → β → Prop} {es : List (Text × α)} {es' : List (Text × β)}
    (h : List.Forall₂ (fun p q => q.1 = p.1 ∧ R p.2 q.2) es es') (name : Text) :
    Option.Rel R (es.lookup name) (es'.lookup name) := by
  induction h with
  | nil => exact .none
  | @cons p q es es' hpq _ ih =>
    obtain ⟨key, a⟩ := p
    obtain ⟨key', b⟩ := q
    obtain ⟨rfl, hab⟩ := hpq
    rw [List.lookup_cons, List.lookup_cons]
    cases name == key' with
    | true => exact .some hab
    | false => exact ih

theorem rel_getElem? {α β : Type} {R : α → β → Prop} {l : List α} {r : List β} (h : List.Forall₂ R l r) (index : Nat) :
    Option.Rel R l[index]? r[index]? := by
  induction h generalizing index with
  | nil => exact .none
  | cons hab _ ih =>
    cases index with
    | zero => exact .some hab
    | succ index => exact ih index

/-- The attributes of a record have references around them if there are references around what it is set to, around
its items, and around what is computed of it. -/
theorem Instance.attributes_agree {schema : Schema} {i j : Instance} (hshape : j.shape = i.shape)
    (hset : List.Forall₂ Value.NamedWrappedAs i.attributes j.attributes)
    (hitems : List.Forall₂ Value.WrappedAs i.items j.items)
    (hcomputed : List.Forall₂ (fun p q => q.1 = p.1 ∧ Agree Value.WrappedAs p.2 q.2) i.computed j.computed)
    (name : Text) : Agree (Option.Rel Value.WrappedAs) (i.attribute? schema name) (j.attribute? schema name) := by
  unfold attribute?
  rw [hshape]
  have hfound := rel_lookup hset name
  have hgiven := rel_lookup hcomputed name
  generalize i.attributes.lookup name = found, j.attributes.lookup name = found',
    i.computed.lookup name = given, j.computed.lookup name = given' at hfound hgiven ⊢
  split
  · cases hgiven with
    | none => exact .result .none
    | some hgiven => exact hgiven.map fun v w hvw => .some hvw
  · exact .result (rel_getElem? hitems _)
  · cases hfound with
    | some hvw => exact .result (.some hvw)
    | none => exact .same (fun found => by cases found <;> constructor; exact .self _) _

/-! ### Unfolding -/

namespace Store.WrappedAs

variable {schema : Schema} {K : Nat → Prop} {σ σ' : Store} (h : WrappedAs schema K σ σ') {place : Nat}

include h

theorem typeName_eq (v : Value) : v.typeName σ' = v.typeName σ := by
  cases v with
  | object place =>
    simp only [Value.typeName]
    by_cases inside : place < σ.size
    · have inside' : place < σ'.size := h.size ▸ inside
      have hnode := h.node place inside inside'
      rw [Array.getElem?_eq_getElem inside, Array.getElem?_eq_getElem inside']
      generalize σ[place] = node, σ'[place] = node' at hnode
      cases hnode with
      | «instance» hij => exact hij.shape
      | _ => rfl
    · have inside' : ¬ place < σ'.size := h.size ▸ inside
      rw [Array.getElem?_eq_none (Nat.le_of_not_lt inside), Array.getElem?_eq_none (Nat.le_of_not_lt inside')]
  | _ => rfl

theorem displayedEntry_agree {e e' : Value × Value} (he : Value.EntryWrappedAs K e e') :
    Agree Value.NamedWrappedAs (Value.displayedEntry σ schema e) (Value.displayedEntry σ' schema e') := by
  unfold Value.displayedEntry
  rw [he.key, h.shares.display_eq he.within]
  exact (Agree.same (R := Eq) (fun t => rfl) _).map fun t t' ht => ⟨ht.symm, he.value⟩

theorem displayedEntries_agree {es es' : List (Value × Value)} (hes : List.Forall₂ (Value.EntryWrappedAs K) es es') :
    Unfolding.WrappedAs K (.entries (es.map (Value.displayedEntry σ schema)))
      (.entries (es'.map (Value.displayedEntry σ' schema))) := by
  refine .entries ?_
  rw [List.forall₂_map_left_iff, List.forall₂_map_right_iff]
  exact hes.imp fun e e' he => h.displayedEntry_agree he

variable {i j : Instance} (hij : i.WrappedAs schema K j) (hi : σ[place]? = some (.instance i))
  (hj : σ'[place]? = some (.instance j))

include hij hi hj

theorem getAttribute_agree (name : Text) : Agree Value.WrappedAs
    ((Value.object place).getAttribute σ schema name) ((Value.object place).getAttribute σ' schema name) := by
  refine (hij.attribute_agree hi hj name).bind ?_
  rintro found found' (hvw | _)
  · exact .result hvw
  · rw [h.typeName_eq]
    exact .fault _

theorem suppliedRow_eq (hcells : i.SuppliesCells schema) :
    (Value.object place).suppliedRow σ' schema = (Value.object place).suppliedRow σ schema := by
  obtain ⟨hlookup, hrow⟩ := hij.row hcells
  have hnames := hij.cells hcells
  unfold Instance.cellNames at hnames
  have hget {name : Text} (hname : j.attribute? schema name = i.attribute? schema name) :
      (Value.object place).getAttribute σ' schema name = (Value.object place).getAttribute σ schema name := by
    simp only [Value.getAttribute, Value.attribute?, hij.metatype_eq hi hj, hi, hj, hname, h.typeName_eq]
  simp only [Value.suppliedRow, hi, hj, hij.shape, hlookup, hget hrow, Value.refuseCall, h.typeName_eq]
  split
  · rename_i names hdeclared hnone
    rw [hdeclared] at hnames
    exact mapM_congr_left fun name hname => hget (hnames name hname).1
  · rfl
  · rfl

theorem unfoldDeclared_agree (hmapping : schema.isMapping i.shape = false)
    (hcells : (∃ headers, schema.headers? i.shape = some (some headers)) → i.SuppliesCells schema) :
    Agree (Unfolding.WrappedAs K) ((Value.object place).unfoldDeclared σ schema i)
      ((Value.object place).unfoldDeclared σ' schema j) := by
  unfold Value.unfoldDeclared
  rw [hij.shape]
  cases hheaders : schema.headers? i.shape with
  | none =>
    dsimp only
    cases schema.fields i.shape with
    | nil => exact .result .atomic
    | cons f fs =>
      refine .result (.entries ?_)
      rw [List.forall₂_map_left_iff, List.forall₂_map_right_iff, List.forall₂_same]
      exact fun f _ => hij.declaredEntry_agree hi hj hmapping f.name
  | some headers =>
    cases headers with
    | none => exact .fault _
    | some headers =>
      have hsupplies := hcells ⟨headers, hheaders⟩
      dsimp only
      rw [h.suppliedRow_eq hij hi hj hsupplies]
      cases hrow : (Value.object place).suppliedRow σ schema with
      | error e => exact .fault e
      | ok row =>
        by_cases hlen : row.length = headers.length
        · have hzip : zipCells headers row = .ok (headers.zip row) := if_pos hlen
          simp only [bind, Except.bind, hzip, pure, Except.pure]
          exact .result (.cells fun c hc => hij.cell_within hi hsupplies hrow (List.of_mem_zip hc).2)
        · have hzip : zipCells headers row = .error (.rowLength (row.length < headers.length)) := if_neg hlen
          simp only [bind, Except.bind, hzip]
          exact .fault _

theorem unfoldInstance_agree : Agree (Unfolding.WrappedAs K) ((Value.object place).unfoldInstance σ schema i)
    ((Value.object place).unfoldInstance σ' schema j) := by
  rw [Value.unfoldInstance_eq, Value.unfoldInstance_eq, hij.shape]
  cases hdata : schema.dataNames? i.shape with
  | some names =>
    refine .result (.entries ?_)
    rw [List.forall₂_map_left_iff, List.forall₂_map_right_iff, List.forall₂_same]
    exact fun name _ => (h.getAttribute_agree hij hi hj name).map fun v w hvw => ⟨rfl, hvw⟩
  | none =>
    cases hslots : (schema.shape? i.shape).bind Shape.slots with
    | some names =>
      refine .result (.entries ?_)
      rw [List.forall₂_map_left_iff, List.forall₂_map_right_iff]
      exact (Unfolding.forall₂_zip hij.items names).imp fun p q hpq => .result hpq
    | none =>
      dsimp only
      have hexport := hij.export_agree
      generalize hexported : i.export? schema = exported, j.export? schema = exported' at hexport ⊢
      cases hexport with
      | fault e => exact .fault e
      | result hfound =>
        cases hfound with
        | some hvw => exact .result (.standIn hvw)
        | none =>
          simp only [Except.bind]
          cases hmapping : schema.isMapping i.shape with
          | true => exact .result (h.displayedEntries_agree hij.entries)
          | false =>
            cases hlist : schema.isList i.shape with
            | true => exact .result (.items hij.items)
            | false =>
              exact h.unfoldDeclared_agree hij hi hj hmapping fun hheaders =>
                ⟨hdata, hslots, hexported, hmapping, hlist, hheaders⟩

omit hij hi hj in
/-- An object unfolds to the same parts with references around them. -/
theorem unfold_agree (inside : place < σ.size) (inside' : place < σ'.size) : Agree (Unfolding.WrappedAs K)
    ((Value.object place).unfold σ schema σ[place]) ((Value.object place).unfold σ' schema σ'[place]) := by
  have hi := Array.getElem?_eq_getElem inside
  have hj := Array.getElem?_eq_getElem inside'
  have hnode := h.node place inside inside'
  generalize σ[place] = node, σ'[place] = node' at hi hj hnode ⊢
  cases hnode with
  | list hvs => exact .result (.items hvs)
  | tuple hvs => exact .result (.items hvs)
  | set vs => exact .result (.items (Value.wrappedAs_same vs))
  | frozenSet vs => exact .result (.items (Value.wrappedAs_same vs))
  | mapping hes => exact .result (h.displayedEntries_agree hes)
  | «instance» hij => exact h.unfoldInstance_agree hij hi hj

end Store.WrappedAs

/-! ### Normal forms -/

namespace Store.WrappedAs

variable {schema : Schema} {K : Nat → Prop} {σ σ' : Store} (h : WrappedAs schema K σ σ') {active : List Nat}

include h

theorem outcome_same (active : List Nat) (v : Value) : v.outcome σ' schema active = v.outcome σ schema active := by
  induction active, v using Value.walk_induction (σ := σ) with
  | target active w ih => rw [Value.outcome_ref, Value.outcome_ref, ih]
  | content active s n m w ih => rw [Value.outcome_member, Value.outcome_member, ih]
  | enter active place inside new ih =>
    have inside' : place < σ'.size := h.size ▸ inside
    rw [Value.outcome_object inside' new, Value.outcome_object inside new]
    refine ((h.unfold_agree inside inside').bind_eq fun u u' hu => ?_).symm
    refine hu.assemble_eq (fun v w hvw => ?_) _
    rw [hvw.outcome_eq, ih]
  | stop active v hend =>
    cases v with
    | ref w => cases hend
    | member s n m w => cases hend
    | object place =>
      by_cases inside : place < σ.size
      · have inside' : place < σ'.size := h.size ▸ inside
        rw [Value.outcome_circular inside (hend inside), Value.outcome_circular inside' (hend inside)]
      · have inside' : ¬ place < σ'.size := h.size ▸ inside
        rw [Value.outcome_nowhere inside, Value.outcome_nowhere inside']
    | _ => simp only [Value.outcome, Value.normalizeWithin]

/-- The walk to the normal form of a value comes to the same with references around the value and around all that it
holds. -/
theorem outcome_eq {v w : Value} (hvw : v.WrappedAs w) : w.outcome σ' schema active = v.outcome σ schema active :=
  (hvw.outcome_eq active).trans (h.outcome_same active v)

theorem normalize_eq {v w : Value} (hvw : v.WrappedAs w) : w.normalize σ' schema = v.normalize σ schema :=
  h.outcome_eq hvw

end Store.WrappedAs

end RecordPrint
