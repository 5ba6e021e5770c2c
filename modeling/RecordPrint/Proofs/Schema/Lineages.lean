import RecordPrint.Proofs.Schema.Declared

/-!
# Lineages

The lineages of the shapes of a class table: of each shape what it is declared with, and of its ancestors all that they
descend from.

* `ShapeDecl.IsOrdered` — a declaration whose bases go together in one order; `Accepted` — declarations one after the
  other, each of which is such a one and has its bases before it;
* `Accepted.shape?_of_mem` — every declaration gives its shape, and later ones leave it as it is;
* `Accepted.shape_induction` — what a shape has as soon as the other shapes have it, all of them have;
* `Accepted.nodup_lineage`, `Accepted.lineage_subset` — no shape is twice in a lineage, and what an ancestor descends
  from is there too;
* `Accepted.lineage_of_base` — behind a shape with a single base is just the lineage of this base.
-/

namespace RecordPrint

variable {schema : Schema}

/-! ### Merging -/

theorem nextAncestor?_eq_some {lists : List (List Ancestor)} {a : Ancestor} (h : nextAncestor? lists = some a) :
    ∀ l ∈ lists, a ∉ l.tail := by
  have hall := List.find?_some h
  simpa using hall

/-- A merged lineage repeats nothing: what is taken is in no list any more. -/
theorem nodup_mergeLineages (fuel : Nat) (lists : List (List Ancestor)) : (mergeLineages fuel lists).Nodup := by
  induction fuel generalizing lists with
  | zero => exact List.nodup_nil
  | succ fuel ih =>
    rw [mergeLineages]
    split
    · exact List.nodup_nil
    · rename_i a ha
      refine List.nodup_cons.2 ⟨fun hmem => ?_, ih _⟩
      obtain ⟨l', hl', hin⟩ := mem_of_mem_mergeLineages hmem
      obtain ⟨l, hl, rfl⟩ := List.mem_map.1 hl'
      have htail : a ∉ l.tail := nextAncestor?_eq_some ha l hl
      split at hin
      · exact htail hin
      · rename_i hhead
        cases l with
        | nil => cases hin
        | cons b l =>
          rcases List.mem_cons.1 hin with rfl | hin
          · exact hhead rfl
          · exact htail hin

/-- A lineage without repeats that is merged with its own beginning is taken from front to back. -/
theorem mergeLineages_prefix {l m : List Ancestor} (hl : l.Nodup) (hm : m <+: l) {fuel : Nat} (hfuel : l.length ≤ fuel) :
    mergeLineages fuel [l, m] = l := by
  induction l generalizing m fuel with
  | nil =>
    rw [List.prefix_nil.1 hm]
    cases fuel <;> rfl
  | cons a l ih =>
    obtain ⟨hnew, hl⟩ := List.nodup_cons.1 hl
    cases fuel with
    | zero => simp at hfuel
    | succ fuel =>
      have hrest : ∀ m, m <+: l → mergeLineages fuel [l, m] = l :=
        fun m hm => ih hl hm (Nat.le_of_succ_le_succ hfuel)
      cases m with
      | nil => simp [mergeLineages, nextAncestor?, hnew, hrest [] List.nil_prefix]
      | cons b m =>
        obtain ⟨rfl, hbehind⟩ := List.cons_prefix_cons.1 hm
        have hother : b ∉ m := fun hmem => hnew (hbehind.subset hmem)
        simp [mergeLineages, nextAncestor?, hnew, hother, hrest m hbehind]

/-! ### Class tables -/

/-- A declaration whose bases go together in one order: nothing that one of them descends from is left out. -/
def ShapeDecl.IsOrdered (schema : Schema) (d : ShapeDecl) : Prop :=
  d.kind ≠ .dictionary → ∀ base ∈ d.bases, schema.lineage base ⊆ d.lineage schema

instance (schema : Schema) (d : ShapeDecl) : Decidable (d.IsOrdered schema) :=
  inferInstanceAs (Decidable (d.kind ≠ .dictionary → ∀ base ∈ d.bases, ∀ a ∈ schema.lineage base, a ∈ d.lineage schema))

/-- Declarations one after the other, each of which the schema so far can take, with bases that go together. -/
inductive Accepted : List ShapeDecl → Prop where
  | nil : Accepted []
  | snoc {ds : List ShapeDecl} {d : ShapeDecl} : Accepted ds → d.Sound (.ofDecls ds) → d.IsOrdered (.ofDecls ds) →
    Accepted (ds ++ [d])

theorem Schema.ofDecls_concat (ds : List ShapeDecl) (d : ShapeDecl) :
    ofDecls (ds ++ [d]) = (ofDecls ds).declare d := by
  rw [ofDecls, List.foldl_append, ← ofDecls]
  rfl

/-- A declaration without bases and one that descends from it. -/
theorem accepted_derived {d e : ShapeDecl} (he : e.bases = []) (hd : d.bases = [.shape e.name]) (hname : e.name ≠ d.name)
    (hetuple : e.kind ≠ .tuple) (htuple : d.kind ≠ .tuple) (hordered : d.IsOrdered (.ofDecls [e])) :
    Accepted [e, d] := by
  have hbase : Accepted ([] ++ [e]) := by
    refine .snoc .nil ⟨rfl, ?_, fun h => absurd h hetuple⟩ ?_
    · simp [he]
    · intro _ base hmem
      simp [he] at hmem
  refine .snoc hbase ⟨?_, ?_, fun h => absurd h htuple⟩ hordered
  · simp [Schema.ofDecls, Schema.declare, Schema.shape?, ShapeDecl.toShape, hname]
  · intro name hmem
    rw [hd] at hmem
    cases List.mem_singleton.1 hmem
    simp [Schema.ofDecls, Schema.declare, Schema.shape?, ShapeDecl.toShape]

/-- A schema that holds what a declaration descends from: its bases and all shapes behind it, which go together in one
order and of which it is none itself. -/
structure ShapeDecl.HasBases (schema : Schema) (d : ShapeDecl) : Prop where
  bases : ∀ name, .shape name ∈ d.bases → (schema.shape? name).isSome ∧ name ≠ d.name
  behind : ∀ name, .shape name ∈ (d.lineage schema).tail → (schema.shape? name).isSome ∧ name ≠ d.name
  ordered : d.IsOrdered schema

namespace ShapeDecl

variable {d : ShapeDecl}

theorem hasBases_of_sound (hschema : schema.Declared) (hd : d.Sound schema) (hordered : d.IsOrdered schema) :
    d.HasBases schema := by
  have hnew : ∀ name, (schema.shape? name).isSome → (schema.shape? name).isSome ∧ name ≠ d.name := by
    refine fun name hold => ⟨hold, ?_⟩
    rintro rfl
    rw [hd.fresh] at hold
    cases hold
  exact ⟨fun name hname => hnew name (hd.bases name hname),
    fun name hname => hnew name (isSome_of_mem_lineage (fun _ _ => hschema.sound) hd hname), hordered⟩

/-- The lineages of the bases are the same after another declaration. -/
theorem HasBases.lineage_base (h : d.HasBases schema) (d' : ShapeDecl) {base : Ancestor} (hbase : base ∈ d.bases) :
    (schema.declare d').lineage base = schema.lineage base := by
  cases base with
  | shape name => rw [Schema.lineage, Schema.shape?_declare_of_isSome (h.bases name hbase).1, Schema.lineage]
  | dict | list | tabular => rfl

theorem HasBases.lineage_declare (h : d.HasBases schema) (d' : ShapeDecl) :
    d.lineage (schema.declare d') = d.lineage schema := by
  have hbases : d.bases.map (Schema.lineage (schema.declare d')) = d.bases.map (Schema.lineage schema) :=
    List.map_congr_left fun _ hbase => h.lineage_base d' hbase
  unfold lineage
  simp only [hbases]

/-- Another declaration leaves the shape as it is. -/
theorem HasBases.toShape_declare (h : d.HasBases schema) (d' : ShapeDecl) :
    d.toShape (schema.declare d') = d.toShape schema := by
  have hbehind := Schema.shapes_declare (fun name hname => (h.behind name hname).1) d'
  have hannotations : d.annotations (schema.declare d') = d.annotations schema := by
    unfold annotations
    rw [Schema.shapes_declare fun name hname => (h.bases name hname).1]
  have hdata : d.dataFields (schema.declare d') = d.dataFields schema := by
    unfold dataFields
    rw [h.lineage_declare d', hbehind]
  have hslots : d.slots (schema.declare d') = d.slots schema := by
    unfold slots
    rw [h.lineage_declare d', hbehind]
  unfold toShape
  rw [h.lineage_declare d', hannotations, hdata, hslots]

theorem HasBases.declare (h : d.HasBases schema) (d' : ShapeDecl) : d.HasBases (schema.declare d') := by
  constructor
  · intro name hname
    rw [Schema.shape?_declare_of_isSome (h.bases name hname).1]
    exact h.bases name hname
  · intro name hname
    rw [h.lineage_declare d'] at hname
    rw [Schema.shape?_declare_of_isSome (h.behind name hname).1]
    exact h.behind name hname
  · intro hkind base hbase
    rw [h.lineage_declare d', h.lineage_base d' hbase]
    exact h.ordered hkind base hbase

end ShapeDecl

namespace Accepted

variable {ds : List ShapeDecl} {d : ShapeDecl}

theorem declared (h : Accepted ds) : (Schema.ofDecls ds).Declared := by
  induction h with
  | nil => exact .empty
  | snoc _ hd _ ih =>
    rw [Schema.ofDecls_concat]
    exact .declare ih hd

/-- Every declaration gives its shape. -/
theorem shape?_of_mem (h : Accepted ds) (hd : d ∈ ds) :
    d.HasBases (.ofDecls ds) ∧ (Schema.ofDecls ds).shape? d.name = some (d.toShape (.ofDecls ds)) := by
  induction h with
  | nil => cases hd
  | @snoc ds d' h hsound hordered ih =>
    rw [Schema.ofDecls_concat, Schema.shape?_declare]
    rcases List.mem_append.1 hd with hd | hd
    · obtain ⟨hbases, hshape⟩ := ih hd
      refine ⟨hbases.declare d', ?_⟩
      rw [hshape, hbases.toShape_declare d']
      rfl
    · cases List.mem_singleton.1 hd
      have hbases := ShapeDecl.hasBases_of_sound h.declared hsound hordered
      refine ⟨hbases.declare d, ?_⟩
      rw [hsound.fresh, hbases.toShape_declare d]
      simp

theorem hasBases (h : Accepted ds) (hd : d ∈ ds) : d.HasBases (.ofDecls ds) := (h.shape?_of_mem hd).1

theorem shape? (h : Accepted ds) (hd : d ∈ ds) :
    (Schema.ofDecls ds).shape? d.name = some (d.toShape (.ofDecls ds)) :=
  (h.shape?_of_mem hd).2

theorem lineage_shape (h : Accepted ds) (hd : d ∈ ds) :
    (Schema.ofDecls ds).lineage (.shape d.name) = d.lineage (.ofDecls ds) :=
  Schema.lineage_of_shape? (h.shape? hd)

theorem nodup_lineage (h : Accepted ds) (hd : d ∈ ds) : (d.lineage (.ofDecls ds)).Nodup := by
  have hself : .shape d.name ∉ (d.lineage (.ofDecls ds)).tail :=
    fun hmem => ((h.hasBases hd).behind d.name hmem).2 rfl
  unfold ShapeDecl.lineage at hself ⊢
  refine List.nodup_cons.2 ⟨hself, ?_⟩
  split
  · exact List.nodup_singleton _
  · exact nodup_mergeLineages _ _

/-- Behind a shape with a single base is just the lineage of the base. -/
theorem lineage_of_base {e : ShapeDecl} (h : Accepted ds) (he : e ∈ ds) (hkind : d.kind ≠ .dictionary)
    (hbase : d.bases = [.shape e.name]) : (d.lineage (.ofDecls ds)).tail = e.lineage (.ofDecls ds) := by
  have hself : [.shape e.name] <+: e.lineage (.ofDecls ds) := ⟨(e.lineage (.ofDecls ds)).tail, rfl⟩
  rw [ShapeDecl.lineage, if_neg hkind, hbase, List.map_singleton, List.singleton_append, h.lineage_shape he,
    List.tail_cons, mergeLineages_prefix (h.nodup_lineage he) hself (by simp)]

theorem shapes_lineage (h : Accepted ds) (hd : d ∈ ds) : (Schema.ofDecls ds).shapes (d.lineage (.ofDecls ds)) =
    d.toShape (.ofDecls ds) :: (Schema.ofDecls ds).shapes (d.lineage (.ofDecls ds)).tail :=
  List.filterMap_cons_some (h.shape? hd)

theorem shapes_of_base {e : ShapeDecl} (h : Accepted ds) (hd : d ∈ ds) (he : e ∈ ds) (hkind : d.kind ≠ .dictionary)
    (hbase : d.bases = [.shape e.name]) : (Schema.ofDecls ds).shapes (d.lineage (.ofDecls ds)) =
      d.toShape (.ofDecls ds) :: (Schema.ofDecls ds).shapes (e.lineage (.ofDecls ds)) := by
  rw [h.shapes_lineage hd, h.lineage_of_base he hkind hbase]

theorem shapes_base_subset {e : ShapeDecl} (h : Accepted ds) (hd : d ∈ ds) (he : e ∈ ds) (hkind : d.kind ≠ .dictionary)
    (hbase : d.bases = [.shape e.name]) :
    (Schema.ofDecls ds).shapes (e.lineage (.ofDecls ds)) ⊆ (Schema.ofDecls ds).shapes (d.lineage (.ofDecls ds)) := by
  rw [h.shapes_of_base hd he hkind hbase]
  exact List.subset_cons_self _ _

/-- What a shape keeps in every later schema, and has as soon as the other shapes have it, holds of all shapes. -/
theorem shape_induction {P : Schema → Shape → Prop}
    (stable : ∀ schema s d, s.Sound schema → P schema s → P (schema.declare d) s)
    (step : ∀ ds d, Accepted ds → d ∈ ds →
      (∀ name s, name ≠ d.name → (Schema.ofDecls ds).shape? name = some s → P (.ofDecls ds) s) →
        P (.ofDecls ds) (d.toShape (.ofDecls ds)))
    (h : Accepted ds) {name : Text} {s : Shape} (hs : (Schema.ofDecls ds).shape? name = some s) : P (.ofDecls ds) s := by
  induction h generalizing name s with
  | nil => cases hs
  | @snoc ds d h hsound hordered ih =>
    have hall : Accepted (ds ++ [d]) := h.snoc hsound hordered
    have hold : ∀ name s, name ≠ d.name → (Schema.ofDecls (ds ++ [d])).shape? name = some s →
        P (.ofDecls (ds ++ [d])) s := by
      intro name s hname hs
      rw [Schema.ofDecls_concat, Schema.shape?_declare, if_neg hname.symm, Option.or_none] at hs
      rw [Schema.ofDecls_concat]
      exact stable _ s d (h.declared.sound hs) (ih hs)
    by_cases hname : name = d.name
    · have hd : d ∈ ds ++ [d] := by simp
      rw [hname, hall.shape? hd] at hs
      cases hs
      exact step _ d hall hd hold
    · exact hold name s hname hs

/-- What an ancestor descends from is in the lineage, too. -/
theorem lineage_subset (h : Accepted ds) {name : Text} {s : Shape} (hs : (Schema.ofDecls ds).shape? name = some s) :
    ∀ a ∈ s.lineage, (Schema.ofDecls ds).lineage a ⊆ s.lineage := by
  refine h.shape_induction (P := fun schema s => ∀ a ∈ s.lineage, schema.lineage a ⊆ s.lineage) ?_ ?_ hs
  · intro schema s d hsound hclosed a ha
    cases a with
    | shape n =>
      rw [Schema.lineage, Schema.shape?_declare_of_isSome (hsound.lineage n ha)]
      exact hclosed (.shape n) ha
    | dict | list | tabular => exact hclosed _ ha
  · intro ds d h hd ih a ha
    have hbases := h.hasBases hd
    have hself : d.lineage (.ofDecls ds) = .shape d.name :: (d.lineage (.ofDecls ds)).tail := rfl
    have hin : a ∈ d.lineage (.ofDecls ds) := ha
    rw [hself] at hin
    rcases List.mem_cons.1 hin with rfl | hbehind
    · rw [h.lineage_shape hd]
      exact List.Subset.refl _
    · rw [ShapeDecl.lineage, List.tail_cons] at hbehind
      split at hbehind
      · rw [List.mem_singleton.1 hbehind] at ha ⊢
        exact List.cons_subset.2 ⟨ha, List.nil_subset _⟩
      · rename_i hkind
        obtain ⟨l, hl, hal⟩ := mem_of_mem_mergeLineages hbehind
        rcases List.mem_append.1 hl with hl | hl
        · -- an ancestor of a base
          obtain ⟨base, hbase, rfl⟩ := List.mem_map.1 hl
          refine List.Subset.trans ?_ (hbases.ordered hkind base hbase)
          cases base with
          | shape name =>
            obtain ⟨hsome, hne⟩ := hbases.bases name hbase
            obtain ⟨s, hs⟩ := Option.isSome_iff_exists.1 hsome
            rw [Schema.lineage_of_shape? hs] at hal ⊢
            exact ih name s hne hs a hal
          | dict | list | tabular =>
            cases List.mem_singleton.1 hal
            exact List.Subset.refl _
        · -- a base itself
          rw [List.mem_singleton.1 hl] at hal
          exact hbases.ordered hkind a hal

end Accepted

end RecordPrint
