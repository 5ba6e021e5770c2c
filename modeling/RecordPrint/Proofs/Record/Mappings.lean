import RecordPrint.Proofs.Record.Fields

/-!
# Entries of mappings in normal forms

A mapping becomes an object whose names are its displayed keys. Different keys may be displayed alike, and then only one
of their entries is left.

* `Value.IsEntrywise` — the mappings that are converted entry by entry;
* `Unfolds.of_isEntrywise` — what such a mapping becomes;
* `Unfolds.part_of_reaches` — the normal form of what a value reaches is a part of that of the value, where no names are
  put twice;
* `entries_kept_iff` — so a mapping keeps all of its entries, in their order, exactly if no two of its keys are
  displayed alike;
* `entries_lost` — and it does not if they are, if it is converted in another way, or if it is a supplied cell.
-/

namespace RecordPrint

open Relation (ReflTransGen)

variable {σ : Store} {schema : Schema}

/-! ### Parts of trees -/

/-- A tree is a part of a tree: it is the tree itself, or a part of one of its items or of the value of an entry. -/
inductive Tree.PartOf {α : Type} (u : Tree α) : Tree α → Prop where
  | self : PartOf u u
  | item {items : List (Tree α)} {t : Tree α} : t ∈ items → PartOf u t → PartOf u (.array items)
  | entry {entries : List (Text × Tree α)} {e : Text × Tree α} : e ∈ entries → PartOf u e.2 → PartOf u (.object entries)

theorem Tree.PartOf.trans {α : Type} {u v t : Tree α} (hu : u.PartOf v) (hv : v.PartOf t) : u.PartOf t := by
  induction hv with
  | self => exact hu
  | item hmem _ ih => exact .item hmem ih
  | entry hmem _ ih => exact .entry hmem ih

namespace Value

/-! ### Mappings -/

/-- A value is a mapping with some entries and is converted as one: a dictionary, or a record of a shape that is a
mapping, but no data class and no tuple, and exports nothing. -/
inductive IsEntrywise (σ : Store) (schema : Schema) : Value → List (Value × Value) → Prop where
  | dictionary {place : Nat} {type : Text} {es : List (Value × Value)} :
    σ[place]? = some (.mapping type es) → IsEntrywise σ schema (.object place) es
  | record {place : Nat} {i : Instance} : σ[place]? = some (.instance i) → schema.isMapping i.shape = true →
    (schema.shape? i.shape).bind Shape.dataFields = none → (schema.shape? i.shape).bind Shape.slots = none →
    i.export? schema = .ok none → IsEntrywise σ schema (.object place) i.entries

/-- Such a mapping unfolds to its entries with the keys displayed. -/
theorem IsEntrywise.unfold_eq {w : Value} {es : List (Value × Value)} (h : IsEntrywise σ schema w es) :
    ∃ (place : Nat) (inside : place < σ.size), w = .object place ∧
      (object place).unfold σ schema σ[place] = .ok (.entries (es.map (displayedEntry σ schema))) := by
  cases h with
  | @dictionary place type es hnode =>
    obtain ⟨inside, hget⟩ := Array.getElem?_eq_some_iff.1 hnode
    refine ⟨place, inside, rfl, ?_⟩
    rw [hget]
    rfl
  | @record place i hnode hmapping hdata hslots hexport =>
    obtain ⟨inside, -⟩ := Array.getElem?_eq_some_iff.1 hnode
    refine ⟨place, inside, rfl, ?_⟩
    rw [unfold_instance inside hnode]
    simp only [unfoldInstance, hdata, hslots, hexport, bind, Except.bind, hmapping, if_true]
    rfl

theorem displayedEntry_eq_ok {e : Value × Value} {d : Text × Value} (h : displayedEntry σ schema e = .ok d) :
    e.1.display σ schema = .ok d.1 ∧ e.2 = d.2 := by
  obtain ⟨name, hname, rfl⟩ := map_eq_ok_iff.1 h
  exact ⟨hname, rfl⟩

theorem mapM_display {es : List (Value × Value)} {ds : List (Text × Value)}
    (h : es.mapM (displayedEntry σ schema) = .ok ds) :
    es.mapM (fun e => e.1.display σ schema) = .ok (ds.map Prod.fst) := by
  rw [mapM_eq_ok_iff, List.forall₂_map_right_iff]
  exact (mapM_eq_ok_iff.1 h).imp fun e d hed => (displayedEntry_eq_ok hed).1

/-- What a mapping becomes: its displayed keys with the normal forms of its values, put one by one. -/
theorem Unfolds.of_isEntrywise {w : Value} {u : Tree Value} {es : List (Value × Value)} (h : Unfolds σ schema w u)
    (hw : IsEntrywise σ schema w es) :
    ∃ names ts, es.mapM (fun e => e.1.display σ schema) = .ok names ∧
      es.mapM (fun e => e.2.normalize σ schema) = .ok ts ∧ u = .object (putEntries [] (names.zip ts)) := by
  obtain ⟨place, inside, rfl, hunfold⟩ := hw.unfold_eq
  obtain ⟨ds, ts, heq, hlen, hparts, rfl⟩ := h.entries_of_unfold inside hunfold
  have hdisplayed := map_eq_map_ok_iff.1 heq
  have hvalues : es.mapM (fun e => e.2.normalize σ schema) = ds.mapM (fun d => d.2.normalize σ schema) :=
    mapM_congr (mapM_eq_ok_iff.1 hdisplayed) fun e d hed => by rw [(displayedEntry_eq_ok hed).2]
  refine ⟨ds.map Prod.fst, ts, mapM_display hdisplayed, ?_, rfl⟩
  rw [hvalues, mapM_eq_ok_iff]
  exact List.forall₂_iff_zip.2 ⟨hlen, @fun d t => hparts (d, t)⟩

/-! ### Names that are put once -/

/-- The names that a value unfolds to are distinct, if it unfolds to any. -/
def HasDistinctNames (σ : Store) (schema : Schema) (v : Value) : Prop :=
  ∀ (place : Nat) (inside : place < σ.size) (es : List (Text × Value)), v = .object place →
    v.unfold σ schema σ[place] = .ok (.entries (es.map .ok)) → (es.map Prod.fst).Nodup

theorem map_fst_zip_sublist {α β : Type} (l : List α) (m : List β) : ((l.zip m).map Prod.fst).Sublist l := by
  induction l generalizing m with
  | nil => exact .slnil
  | cons a l ih =>
    cases m with
    | nil => exact List.nil_sublist _
    | cons b m => exact (ih m).cons_cons a

/-- Entries that are read for the fields of a declared shape have distinct names. -/
theorem nodup_of_fields (hschema : schema.Declared) {shape : Text} {entry : Text → Except Fault (Text × Value)}
    {es : List (Text × Value)} (h : ((schema.fields shape).map Field.name).map entry = es.map .ok)
    (hentry : ∀ name e, entry name = .ok e → e.1 = name) : (es.map Prod.fst).Nodup := by
  rw [map_fst_of_named (map_eq_map_ok_iff.1 h) hentry]
  exact hschema.nodup_fields shape

theorem nodup_of_unfoldDeclared (hschema : schema.Declared) {v : Value} {i : Instance} {es : List (Text × Value)}
    (h : v.unfoldDeclared σ schema i = .ok (.entries (es.map .ok))) : (es.map Prod.fst).Nodup := by
  rw [unfoldDeclared] at h
  split at h
  · cases h
  · obtain ⟨row, -, h⟩ := bind_eq_ok_iff.1 h
    obtain ⟨cells, -, h⟩ := bind_eq_ok_iff.1 h
    cases h
  · split at h
    · cases h
    · have hfields : ((schema.fields i.shape).map Field.name).map (v.declaredEntry σ schema) = es.map .ok := by
        rw [List.map_map]
        exact Unfolding.entries.inj (Except.ok.inj h)
      exact nodup_of_fields hschema hfields fun name e he => fst_of_map_eq_ok he

/-- A record that unfolds to entries is converted as a mapping, or its names are those of its fields or items. -/
theorem nodup_or_isEntrywise (hschema : schema.Declared) {place : Nat} {i : Instance} {es : List (Text × Value)}
    (hnode : σ[place]? = some (.instance i))
    (h : (object place).unfoldInstance σ schema i = .ok (.entries (es.map .ok))) :
    (es.map Prod.fst).Nodup ∨
      IsEntrywise σ schema (.object place) i.entries ∧ i.entries.mapM (displayedEntry σ schema) = .ok es := by
  rcases hdata : (schema.shape? i.shape).bind Shape.dataFields with _ | fields
  · rcases hslots : (schema.shape? i.shape).bind Shape.slots with _ | names
    · simp only [unfoldInstance, hdata, hslots] at h
      obtain ⟨exported, hexport, h⟩ := bind_eq_ok_iff.1 h
      cases exported with
      | some w => cases h
      | none =>
        simp only at h
        split at h
        · rename_i hmapping
          have hentries : i.entries.map (displayedEntry σ schema) = es.map .ok :=
            Unfolding.entries.inj (Except.ok.inj h)
          exact .inr ⟨.record hnode hmapping hdata hslots hexport, map_eq_map_ok_iff.1 hentries⟩
        · split at h
          · cases h
          · exact .inl (nodup_of_unfoldDeclared hschema h)
    · left
      obtain ⟨s, hs, hown⟩ := Option.bind_eq_some_iff.1 hslots
      simp only [unfoldInstance, hdata, hslots, Except.ok.injEq, Unfolding.entries.injEq] at h
      have hes : names.zip i.items = es := List.map_injective_iff.2 (fun _ _ => Except.ok.inj) h
      rw [← hes]
      exact (hschema.nodup_slots hs hown).1.sublist (map_fst_zip_sublist names i.items)
  · left
    obtain ⟨s, hs, hown⟩ := Option.bind_eq_some_iff.1 hdata
    rw [unfold_of_dataFields hs hown] at h
    exact nodup_of_fields hschema (Unfolding.entries.inj (Except.ok.inj h)) fun name e he => fst_of_map_eq_ok he

/-- In a declared schema the names that a value unfolds to are distinct, unless it is a mapping with keys that are
displayed alike. -/
theorem hasDistinctNames_of_declared (hschema : schema.Declared) {v : Value}
    (hkeys : ∀ es names, IsEntrywise σ schema v es → es.mapM (fun e => e.1.display σ schema) = .ok names →
      names.Nodup) : v.HasDistinctNames σ schema := by
  rintro place inside ds rfl hunfold
  have hdisplayed : ∀ es, IsEntrywise σ schema (.object place) es → es.mapM (displayedEntry σ schema) = .ok ds →
      (ds.map Prod.fst).Nodup := fun es hes hds => hkeys es _ hes (mapM_display hds)
  have hnode : σ[place]? = some σ[place] := Array.getElem?_eq_getElem inside
  cases hkind : σ[place] with
  | sequence kind items =>
    rw [hkind] at hunfold
    cases hunfold
  | mapping type es =>
    rw [hkind] at hunfold
    refine hdisplayed es (.dictionary (hnode.trans (congrArg some hkind))) ?_
    exact map_eq_map_ok_iff.1 (Unfolding.entries.inj (Except.ok.inj hunfold))
  | «instance» i =>
    rw [hkind] at hunfold
    rcases nodup_or_isEntrywise hschema (hnode.trans (congrArg some hkind)) hunfold with hnodup | ⟨hes, hds⟩
    · exact hnodup
    · exact hdisplayed _ hes hds

/-! ### Normal forms of what is reached -/

/-- What a value leads to in one step has a normal form, which is a part of the one of the value if no name is put
twice. -/
theorem Unfolds.part_of_edge {v w : Value} {t : Tree Value} (h : Unfolds σ schema v t) (hedge : Edge σ schema v w) :
    ∃ u, Unfolds σ schema w u ∧ (v.HasDistinctNames σ schema → u.PartOf t) := by
  cases h with
  | target h =>
    cases hedge
    exact ⟨_, h, fun _ => .self⟩
  | content h =>
    cases hedge
    exact ⟨_, h, fun _ => .self⟩
  | timestamp | date | clock | path | scalar | refined | shape | missing | foreign => cases hedge
  | nowhere hout =>
    cases hedge with
    | part inside => exact absurd inside hout
  | atomic _ hunfold | cells _ hunfold =>
    cases hedge with
    | part _ hunfold' hleads =>
      rw [hunfold] at hunfold'
      cases hunfold'
      cases hleads
  | standIn _ hunfold h =>
    cases hedge with
    | part _ hunfold' hleads =>
      rw [hunfold] at hunfold'
      cases hunfold'
      cases hleads
      exact ⟨_, h, fun _ => .self⟩
  | items _ hunfold hlen hparts =>
    cases hedge with
    | part _ hunfold' hleads =>
      rw [hunfold] at hunfold'
      cases hunfold'
      obtain ⟨u, hu⟩ := exists_zip_of_mem hlen hleads
      exact ⟨u, hparts _ hu, fun _ => .item (List.of_mem_zip hu).2 .self⟩
  | @entries place es ts inside hunfold hlen hparts =>
    cases hedge with
    | part _ hunfold' hleads =>
      rw [hunfold] at hunfold'
      cases hunfold'
      obtain ⟨name, hmem⟩ := hleads
      obtain ⟨e, he, heq⟩ := List.mem_map.1 hmem
      cases heq
      obtain ⟨u, hu⟩ := exists_zip_of_mem hlen he
      refine ⟨u, hparts _ hu, fun hnames => ?_⟩
      -- with distinct names every entry is kept
      have hnodup : (((es.map Prod.fst).zip ts).map Prod.fst).Nodup := by
        rw [List.map_fst_zip (by rw [List.length_map]; exact Nat.le_of_eq hlen)]
        exact hnames place inside es rfl hunfold
      rw [putEntries_of_nodup hnodup, List.zip_map_left]
      exact .entry (List.mem_map_of_mem hu) .self

/-- What a value reaches has a normal form, which is a part of the one of the value if no name is put twice on the
way. -/
theorem Unfolds.part_of_reaches {v w : Value} {t : Tree Value} (h : Unfolds σ schema v t)
    (hreach : Reaches σ schema v w) :
    ∃ u, Unfolds σ schema w u ∧ ((∀ x, Reaches σ schema v x → x.HasDistinctNames σ schema) → u.PartOf t) := by
  induction hreach with
  | refl => exact ⟨t, h, fun _ => .self⟩
  | @tail x w hx hedge ih =>
    obtain ⟨u, hu, hpart⟩ := ih
    obtain ⟨u', hu', hpart'⟩ := hu.part_of_edge hedge
    exact ⟨u', hu', fun hnames => (hpart' (hnames x hx)).trans (hpart hnames)⟩

/-- A mapping that is reached on the way to a normal form, and that is converted entry by entry, becomes an object with
the normal forms of its values under its displayed keys. It has one entry for each entry of the mapping, in the same
order, exactly if no two keys are displayed alike. If this holds of all mappings on the way, the object is a part of the
normal form. -/
theorem entries_kept_iff {v w : Value} {t : Tree Value} {es : List (Value × Value)}
    (hv : v.normalize σ schema = .ok t) (hreach : Reaches σ schema v w) (hw : IsEntrywise σ schema w es) :
    ∃ names ts, es.mapM (fun e => e.1.display σ schema) = .ok names ∧
      es.mapM (fun e => e.2.normalize σ schema) = .ok ts ∧
      w.normalize σ schema = .ok (.object (putEntries [] (names.zip ts))) ∧
      (names.Nodup → putEntries [] (names.zip ts) = names.zip ts) ∧
      ((putEntries [] (names.zip ts)).length = es.length ↔ names.Nodup) ∧
      (schema.Declared →
        (∀ x es' names', Reaches σ schema v x → IsEntrywise σ schema x es' →
          es'.mapM (fun e => e.1.display σ schema) = .ok names' → names'.Nodup) →
        Tree.PartOf (.object (names.zip ts)) t) := by
  obtain ⟨u, hu, hpart⟩ := (normalize_eq_ok_iff.1 hv).part_of_reaches hreach
  obtain ⟨names, ts, hnames, hts, rfl⟩ := hu.of_isEntrywise hw
  have hlength : names.length = es.length := (mapM_eq_ok_iff.1 hnames).length_eq.symm
  have hlength' : ts.length = es.length := (mapM_eq_ok_iff.1 hts).length_eq.symm
  have hkeys : (names.zip ts).map Prod.fst = names := List.map_fst_zip (by omega)
  have hkept : names.Nodup → putEntries [] (names.zip ts) = names.zip ts := by
    intro hnodup
    rw [← hkeys] at hnodup
    exact putEntries_of_nodup hnodup
  refine ⟨names, ts, hnames, hts, normalize_eq_ok_iff.2 hu, hkept, ?_, ?_⟩
  · have hzip : (names.zip ts).length = es.length := by
      rw [List.length_zip]
      omega
    rw [← hzip, length_putEntries_iff, hkeys]
  · intro hschema hmappings
    rw [← hkept (hmappings w es names hreach hw hnames)]
    exact hpart fun x hx => hasDistinctNames_of_declared hschema fun es' names' => hmappings x es' names' hx

/-- A list of a mapping whose keys are a number and null. -/
def ledger : Store :=
  #[.sequence .list [.object 1], .mapping "dict" [(.int 1, .text "a"), (.scalar .null, .text "b")]]

theorem entries_kept_iff_ledger :
    normalize ledger [] (.object 0) =
        .ok (.array [.object [("1", .leaf (.text "a")), ("None", .leaf (.text "b"))]]) ∧
      Reaches ledger [] (.object 0) (.object 1) ∧
      IsEntrywise ledger [] (.object 1) [(.int 1, .text "a"), (.scalar .null, .text "b")] ∧
      ∃ u, normalize ledger [] (.object 1) = .ok (.object u) ∧ u.length = 2 := by
  have hlist : unfold ledger [] (.object 0) ledger[0] = .ok (.items [.object 1]) := rfl
  have hdict : unfold ledger [] (.object 1) ledger[1] =
      .ok (.entries ([(("1" : Text), Value.text "a"), ("None", .text "b")].map .ok)) := rfl
  have hunfolds : Unfolds ledger [] (.object 1) (.object [("1", .leaf (.text "a")), ("None", .leaf (.text "b"))]) := by
    refine @Unfolds.entries _ _ 1 _ [.leaf (.text "a"), .leaf (.text "b")] (by decide) hdict rfl ?_
    simp only [List.zip_cons_cons, List.zip_nil_left, List.mem_cons, List.not_mem_nil, or_false, forall_eq_or_imp,
      forall_eq]
    exact ⟨.scalar _, .scalar _⟩
  have hnormal : normalize ledger [] (.object 0) =
      .ok (.array [.object [("1", .leaf (.text "a")), ("None", .leaf (.text "b"))]]) := by
    refine normalize_eq_ok_iff.2 (.items (by decide) hlist rfl fun p hp => ?_)
    rw [List.mem_singleton.1 hp]
    exact hunfolds
  have hreach : Reaches ledger [] (.object 0) (.object 1) :=
    ReflTransGen.single (.part (by decide) hlist (List.mem_singleton.2 rfl))
  have hmapping : IsEntrywise ledger [] (.object 1) [(.int 1, .text "a"), (.scalar .null, .text "b")] :=
    .dictionary rfl
  obtain ⟨names, ts, hnames, -, hobject, -, hlength, -⟩ := entries_kept_iff hnormal hreach hmapping
  cases hnames
  exact ⟨hnormal, hreach, hmapping, _, hobject, hlength.2 (by decide)⟩

/-- Shapes of mappings that are not converted entry by entry, because they export themselves or are data classes, and a
shape that supplies its cells. -/
def lossySchema : Schema :=
  .ofDecls [⟨"Export", .plain, [.dict], [], [], true, none, []⟩,
    ⟨"Data", .data, [.dict], [⟨"x", .builtin "int", none, none⟩], [], false, none, []⟩,
    ⟨"Purse", .plain, [], [], [], false, some ⟨some ["Amount"], some ["amount"]⟩, []⟩]

/-- A dictionary with two keys that are displayed alike, a record of each of these shapes, and the mapping that the last
one supplies as its cell. -/
def lossy : Store :=
  #[.mapping "dict" [(.int 1, .text "a"), (.text "1", .text "b")],
    .instance ⟨"Export", [], [], [(.text "a", .int 1)], [], .ok (.int 5)⟩,
    .instance ⟨"Data", [("x", .int 1)], [], [(.text "a", .int 2)], [], .ok .null⟩,
    .instance ⟨"Purse", [("amount", .object 4)], [], [], [], .ok .null⟩,
    .mapping "dict" [(.int 1, .text "a")]]

/-- Not every mapping in a value that has a normal form becomes an object with an entry for each of its entries: two
keys that are different may be displayed alike, a record may be converted as something else, and a supplied cell is left
as it is. -/
theorem entries_lost :
    (entries? lossy lossySchema (.object 0) = some [(.int 1, .text "a"), (.text "1", .text "b")] ∧
      sameKey lossy lossy.size (.int 1) (.text "1") = false ∧
      normalize lossy lossySchema (.object 0) = .ok (.object [("1", .leaf (.text "b"))])) ∧
    (entries? lossy lossySchema (.object 1) = some [(.text "a", .int 1)] ∧
      normalize lossy lossySchema (.object 1) = .ok (.leaf (.int 5))) ∧
    (entries? lossy lossySchema (.object 2) = some [(.text "a", .int 2)] ∧
      normalize lossy lossySchema (.object 2) = .ok (.object [("x", .leaf (.int 1))])) ∧
    (entries? lossy lossySchema (.object 4) = some [(.int 1, .text "a")] ∧
      normalize lossy lossySchema (.object 3) = .ok (.object [("Amount", .leaf (.object 4))])) := by
  have hdict : unfold lossy lossySchema (.object 0) lossy[0] =
      .ok (.entries ([(("1" : Text), Value.text "a"), ("1", .text "b")].map .ok)) := rfl
  have hexport : unfold lossy lossySchema (.object 1) lossy[1] = .ok (.standIn (.int 5)) := rfl
  have hdata : unfold lossy lossySchema (.object 2) lossy[2] =
      .ok (.entries ([(("x" : Text), Value.int 1)].map .ok)) := rfl
  have hcells : unfold lossy lossySchema (.object 3) lossy[3] = .ok (.cells [("Amount", .object 4)]) := rfl
  have hmerged : Unfolds lossy lossySchema (.object 0) (.object [("1", .leaf (.text "b"))]) := by
    refine @Unfolds.entries _ _ 0 _ [.leaf (.text "a"), .leaf (.text "b")] (by decide) hdict rfl ?_
    simp only [List.zip_cons_cons, List.zip_nil_left, List.mem_cons, List.not_mem_nil, or_false, forall_eq_or_imp,
      forall_eq]
    exact ⟨.scalar _, .scalar _⟩
  have hfields : Unfolds lossy lossySchema (.object 2) (.object [("x", .leaf (.int 1))]) := by
    refine @Unfolds.entries _ _ 2 _ [.leaf (.int 1)] (by decide) hdata rfl fun p hp => ?_
    rw [List.mem_singleton.1 hp]
    exact .scalar _
  refine ⟨⟨rfl, by decide, normalize_eq_ok_iff.2 hmerged⟩, ⟨rfl, ?_⟩, ⟨rfl, normalize_eq_ok_iff.2 hfields⟩, rfl, ?_⟩
  · exact normalize_eq_ok_iff.2 (.standIn (by decide) hexport (.scalar _))
  · exact normalize_eq_ok_iff.2 (.cells (by decide) hcells)

end Value

end RecordPrint
