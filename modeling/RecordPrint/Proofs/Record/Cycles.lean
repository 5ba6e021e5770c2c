import RecordPrint.Proofs.Number.Digits
import RecordPrint.Proofs.Record.Walks

/-!
# Normal forms and cycles

* `Steady` and `HasKeyTexts` — what a value promises to a walk;
* `outcome_error` — where all reads succeed, the walk fails only as circular, and then the value leads back to an
  object that the walk is inside of, or is cyclic;
* `normalize_circular_iff` — so it fails exactly on cyclic values.
-/

namespace RecordPrint

open Relation (ReflTransGen TransGen)

namespace Value

variable {σ : Store} {schema : Schema} {active : List Nat}

/-! ### Where all reads succeed -/

/-- What a record promises that supplies its own cells, or else declares its fields: a row as long as the header, or
fields that can be read. -/
def DeclaredSteady (σ : Store) (schema : Schema) (v : Value) (i : Instance) : Prop :=
  match schema.headers? i.shape with
  | some none => False
  | some (some headers) => ∃ cells, v.suppliedRow σ schema = .ok cells ∧ cells.length = headers.length
  | none => ∀ f ∈ schema.fields i.shape, ∃ w, v.field σ schema f.name = .ok w

/-- What a record promises to a walk: the attributes of a data class are set, and neither the export nor what is
read after it raises anything. -/
def RecordSteady (σ : Store) (schema : Schema) (v : Value) (i : Instance) : Prop :=
  match (schema.shape? i.shape).bind Shape.dataFields, (schema.shape? i.shape).bind Shape.slots with
  | some fields, _ => ∀ f ∈ fields, f.isPseudo = false → ∃ w, v.getAttribute σ schema f.name = .ok w
  | none, some _ => True
  | none, none =>
    (∃ w, i.export? schema = .ok (some w)) ∨ i.export? schema = .ok none ∧
      (schema.isMapping i.shape = false → schema.isList i.shape = false → DeclaredSteady σ schema v i)

/-- What a value promises to a walk: times can be written, records can be read, and a shape itself has no
exporter. -/
def Steady (σ : Store) (schema : Schema) : Value → Prop
  | .timestamp t => ∃ s, t.iso (.char 'T') = .ok s
  | .clock t => ∃ s, t.iso = .ok s
  | .shape name _ => schema.attribute? name exporterName ≠ some .exporter
  | .object place => ∀ i, σ[place]? = some (.instance i) → RecordSteady σ schema (.object place) i
  | _ => True

/-- The entries of a value that is walked through as a mapping. -/
def walkedEntries (σ : Store) (schema : Schema) : Value → List (Value × Value)
  | .object place =>
    match σ[place]? with
    | some (.mapping _ es) => es
    | some (.instance i) =>
      match (schema.shape? i.shape).bind Shape.dataFields, (schema.shape? i.shape).bind Shape.slots,
        i.export? schema, schema.isMapping i.shape with
      | none, none, .ok none, true => i.entries
      | _, _, _, _ => []
    | _ => []
  | _ => []

/-- Every key of a mapping has a text. -/
def HasKeyTexts (σ : Store) (schema : Schema) (v : Value) : Prop :=
  ∀ e ∈ v.walkedEntries σ schema, ∃ t, e.1.display σ schema = .ok t

theorem displayedEntry_readable {es : List (Value × Value)}
    (h : ∀ e ∈ es, ∃ t, e.1.display σ schema = .ok t) :
    ∀ r ∈ es.map (displayedEntry σ schema), ∃ p, r = .ok p := by
  intro r hr
  obtain ⟨e, he, rfl⟩ := List.mem_map.1 hr
  obtain ⟨t, ht⟩ := h e he
  exact ⟨(t, e.2), by rw [displayedEntry, ht]; rfl⟩

theorem unfoldDeclared_readable {v : Value} {i : Instance} (h : DeclaredSteady σ schema v i) :
    ∃ u, v.unfoldDeclared σ schema i = .ok u ∧ u.Readable := by
  unfold DeclaredSteady at h
  unfold unfoldDeclared
  rcases hheaders : schema.headers? i.shape with _ | _ | headers
  · simp only [hheaders] at h ⊢
    rcases hfields : schema.fields i.shape with _ | ⟨f, fs⟩
    · exact ⟨.atomic, rfl, trivial⟩
    · refine ⟨_, rfl, fun r hr => ?_⟩
      obtain ⟨f', hf', rfl⟩ := List.mem_map.1 hr
      obtain ⟨w, hw⟩ := h f' (hfields ▸ hf')
      exact ⟨_, by rw [declaredEntry, hw]; rfl⟩
  · simp only [hheaders] at h
  · simp only [hheaders] at h ⊢
    obtain ⟨cells, hcells, hlen⟩ := h
    refine ⟨.cells (headers.zip cells), ?_, trivial⟩
    simp only [hcells, zipCells, bind, Except.bind, if_pos hlen, pure, Except.pure]

theorem unfoldInstance_readable {place : Nat} {i : Instance} (hi : σ[place]? = some (.instance i))
    (h : RecordSteady σ schema (.object place) i) (hkeys : HasKeyTexts σ schema (.object place)) :
    ∃ u, (object place).unfoldInstance σ schema i = .ok u ∧ u.Readable := by
  unfold RecordSteady at h
  unfold unfoldInstance
  rcases hfields : (schema.shape? i.shape).bind Shape.dataFields with _ | fields
  · rcases hslots : (schema.shape? i.shape).bind Shape.slots with _ | names
    · simp only [hfields, hslots] at h ⊢
      rcases h with ⟨w, hexport⟩ | ⟨hexport, hdeclared⟩
      · exact ⟨.standIn w, by rw [hexport]; rfl, trivial⟩
      · simp only [hexport, bind, Except.bind, pure, Except.pure]
        cases hmap : schema.isMapping i.shape with
        | true =>
          have hentries : walkedEntries σ schema (.object place) = i.entries := by
            simp only [walkedEntries, hi, hfields, hslots, hexport, hmap]
          exact ⟨_, rfl, displayedEntry_readable fun e he => hkeys e (hentries ▸ he)⟩
        | false =>
          cases hlist : schema.isList i.shape with
          | true => exact ⟨_, rfl, trivial⟩
          | false => exact unfoldDeclared_readable (hdeclared hmap hlist)
    · refine ⟨_, rfl, fun r hr => ?_⟩
      obtain ⟨p, -, rfl⟩ := List.mem_map.1 hr
      exact ⟨p, rfl⟩
  · simp only [hfields] at h
    refine ⟨_, rfl, fun r hr => ?_⟩
    obtain ⟨f, hf, rfl⟩ := List.mem_map.1 hr
    obtain ⟨hmem, hpseudo⟩ := List.mem_filter.1 hf
    obtain ⟨w, hw⟩ := h f hmem (by simpa using hpseudo)
    exact ⟨_, by rw [hw]; rfl⟩

/-- An object that keeps its promises can be unfolded. -/
theorem unfold_readable {place : Nat} (inside : place < σ.size) (hsteady : Steady σ schema (.object place))
    (hkeys : HasKeyTexts σ schema (.object place)) :
    ∃ u, (object place).unfold σ schema σ[place] = .ok u ∧ u.Readable := by
  have hnode : σ[place]? = some σ[place] := Array.getElem?_eq_getElem inside
  cases h : σ[place] with
  | sequence kind items => exact ⟨.items items, rfl, trivial⟩
  | mapping type es =>
    refine ⟨.entries _, rfl, displayedEntry_readable fun e he => hkeys e ?_⟩
    simpa only [walkedEntries, hnode, h] using he
  | «instance» i =>
    rw [h] at hnode
    exact unfoldInstance_readable hnode (hsteady i hnode) hkeys

theorem exists_of_assemble_eq_error {v : Value} {u : Unfolding} {f : Value → Except Fault (Tree Value)} {e : Fault}
    (hread : u.Readable) (h : u.assemble v f = .error e) : ∃ w, u.LeadsTo w ∧ f w = .error e := by
  cases u with
  | atomic => cases h
  | cells cs => cases h
  | standIn w => exact ⟨w, rfl, h⟩
  | items vs =>
    cases hts : vs.mapM f with
    | ok ts => simp [Unfolding.assemble, hts, Except.map] at h
    | error e' =>
      simp only [Unfolding.assemble, hts, Except.map, Except.error.injEq] at h
      subst h
      exact exists_of_mapM_eq_error hts
  | entries es =>
    cases hps : es.mapM (mapEntry f) with
    | ok ps => simp [Unfolding.assemble, hps, Except.map] at h
    | error e' =>
      simp only [Unfolding.assemble, hps, Except.map, Except.error.injEq] at h
      subst h
      obtain ⟨r, hr, hfr⟩ := exists_of_mapM_eq_error hps
      obtain ⟨p, rfl⟩ := hread r hr
      refine ⟨p.2, ⟨p.1, hr⟩, ?_⟩
      cases hf : f p.2 with
      | ok t => simp [mapEntry, Except.bind, Except.map, hf] at hfr
      | error e'' => simpa [mapEntry, Except.bind, Except.map, hf] using hfr

/-! ### Cycles -/

theorem cyclic_of_reaches {v w : Value} (h : Reaches σ schema v w) (hw : Cyclic σ schema w) : Cyclic σ schema v := by
  obtain ⟨x, hreach, hx⟩ := hw
  exact ⟨x, ReflTransGen.trans h hreach, hx⟩

/-- Where all reads succeed, a walk fails only because it comes back to an object that it is inside of, or because
the value is cyclic. -/
theorem outcome_error {v : Value} {e : Fault}
    (hread : ∀ w, Reaches σ schema v w → Steady σ schema w ∧ HasKeyTexts σ schema w)
    (h : outcome σ schema active v = .error e) :
    e = .circular ∧ (Cyclic σ schema v ∨ ∃ place ∈ active, Reaches σ schema v (.object place)) := by
  -- what a part comes back to, or a cycle behind it, is also behind the value
  have step : ∀ {active : List Nat} {v w : Value}, Edge σ schema v w →
      (Cyclic σ schema w ∨ ∃ place ∈ active, Reaches σ schema w (.object place)) →
      Cyclic σ schema v ∨ ∃ place ∈ active, Reaches σ schema v (.object place) := by
    rintro active v w hedge (hcyclic | ⟨place, hmem, hreach⟩)
    · exact .inl (cyclic_of_reaches (ReflTransGen.single hedge) hcyclic)
    · exact .inr ⟨place, hmem, ReflTransGen.head hedge hreach⟩
  induction active, v using walk_induction (σ := σ) with
  | target active w ih =>
    have hedge : Edge σ schema (.ref w) w := .target w
    obtain ⟨he, hw⟩ := ih (fun x hx => hread x (ReflTransGen.head hedge hx)) (by simpa using h)
    exact ⟨he, step hedge hw⟩
  | content active s n m w ih =>
    have hedge : Edge σ schema (.member s n m w) w := .content s n m w
    obtain ⟨he, hw⟩ := ih (fun x hx => hread x (ReflTransGen.head hedge hx)) (by simpa using h)
    exact ⟨he, step hedge hw⟩
  | enter active place inside new ih =>
    obtain ⟨hsteady, hkeys⟩ := hread _ ReflTransGen.refl
    obtain ⟨u, hunfold, hu⟩ := unfold_readable inside hsteady hkeys
    rw [outcome_object inside new, hunfold] at h
    obtain ⟨w, hleads, hw⟩ := exists_of_assemble_eq_error hu h
    have hedge : Edge σ schema (.object place) w := .part inside hunfold hleads
    obtain ⟨he, hback⟩ := ih w (fun x hx => hread x (ReflTransGen.head hedge hx)) hw
    refine ⟨he, ?_⟩
    rcases hback with hcyclic | ⟨p, hmem, hreach⟩
    · exact step hedge (.inl hcyclic)
    · rcases List.mem_cons.1 hmem with rfl | hmem
      · -- the walk has come back to the object itself
        exact .inl ⟨.object p, ReflTransGen.refl, rfl, TransGen.head' hedge hreach⟩
      · exact step hedge (.inr ⟨p, hmem, hreach⟩)
  | stop active v hend =>
    have hsteady := (hread v ReflTransGen.refl).1
    cases v with
    | ref w => cases hend
    | member s n m w => cases hend
    | object place =>
      by_cases inside : place < σ.size
      · rw [outcome_circular inside (hend inside)] at h
        cases h
        exact ⟨rfl, .inr ⟨place, hend inside, ReflTransGen.refl⟩⟩
      · rw [outcome_nowhere inside] at h
        cases h
    | timestamp d =>
      obtain ⟨s, hs⟩ := hsteady
      simp [outcome, normalizeWithin, hs, Except.map] at h
    | clock c =>
      obtain ⟨s, hs⟩ := hsteady
      simp [outcome, normalizeWithin, hs, Except.map] at h
    | date | path | scalar | refined | shape | missing | foreign =>
      simp [outcome, normalizeWithin] at h

/-- Normalization tells exactly the cyclic values: where all reads succeed, it is refused as circular if a tracked
value that is reachable leads back to itself, and otherwise gives the one unfolding, which is the same for a value
at each of its occurrences. Whatever becomes of it, it ends inside of the objects it has started inside of. -/
theorem normalize_circular_iff {v : Value}
    (hread : ∀ w, Reaches σ schema v w → Steady σ schema w ∧ HasKeyTexts σ schema w) :
    (v.normalize σ schema = .error .circular ↔ Cyclic σ schema v) ∧
      (¬ Cyclic σ schema v → ∃ t, v.normalize σ schema = .ok t ∧ ∀ u, Unfolds σ schema v u ↔ u = t) ∧
      (¬ Cyclic σ schema v → ∀ w, Reaches σ schema v w → ∃ t, w.normalize σ schema = .ok t ∧
        ∀ active u, (w.normalizeWithin σ schema active).outcome = .ok u → u = t) ∧
      (∀ active, (v.normalizeWithin σ schema active).inside = active) ∧
      Fault.message .circular = "Circular reference detected" := by
  have hok : ∀ w, Reaches σ schema v w → ¬ Cyclic σ schema w → ∃ t, w.normalize σ schema = .ok t := by
    intro w hw hcyclic
    cases h : w.normalize σ schema with
    | ok t => exact ⟨t, rfl⟩
    | error e =>
      rcases (outcome_error (fun x hx => hread x (ReflTransGen.trans hw hx)) h).2 with hc | ⟨_, hmem, _⟩
      · exact absurd hc hcyclic
      · cases hmem
  refine ⟨⟨fun h => ?_, fun hcyclic => ?_⟩, fun hcyclic => ?_, fun hcyclic w hw => ?_,
    fun active => (v.normalizeWithin σ schema active).inside_eq, rfl⟩
  · rcases (outcome_error hread h).2 with hc | ⟨_, hmem, _⟩
    · exact hc
    · cases hmem
  · cases h : v.normalize σ schema with
    | ok t => exact absurd hcyclic (unfolds_of_outcome h).not_cyclic
    | error e => rw [(outcome_error hread h).1]
  · obtain ⟨t, ht⟩ := hok v ReflTransGen.refl hcyclic
    have hunfolds := unfolds_of_outcome ht
    exact ⟨t, ht, fun u => ⟨fun hu => hunfolds.unique hu, fun hu => hu ▸ hunfolds⟩⟩
  · obtain ⟨t, ht⟩ := hok w hw fun hc => hcyclic (cyclic_of_reaches hw hc)
    exact ⟨t, ht, fun active u hu => (unfolds_of_outcome ht).unique (unfolds_of_outcome hu)⟩

/-- A list that holds itself. -/
def loop : Store := #[.sequence .list [.object 0]]

theorem loop_edge {w : Value} (h : Edge loop [] (.object 0) w) : w = .object 0 := by
  cases h with
  | part _ hunfold hleads =>
    cases hunfold
    exact List.mem_singleton.1 hleads

theorem normalize_loop :
    (∀ w, Reaches loop [] (.object 0) w → Steady loop [] w ∧ HasKeyTexts loop [] w) ∧
      normalize loop [] (.object 0) = .error .circular := by
  have hread : ∀ w, Reaches loop [] (.object 0) w → Steady loop [] w ∧ HasKeyTexts loop [] w := by
    intro w hw
    have hsame : w = .object 0 := by
      induction hw with
      | refl => rfl
      | tail _ hedge ih => exact loop_edge (ih ▸ hedge)
    subst hsame
    refine ⟨fun i hi => ?_, fun e he => ?_⟩
    · cases hi
    · cases he
  have hedge : Edge loop [] (.object 0) (.object 0) :=
    .part (u := .items [.object 0]) (by decide) rfl (List.mem_singleton.2 rfl)
  exact ⟨hread, (normalize_circular_iff hread).1.2 ⟨.object 0, ReflTransGen.refl, rfl, TransGen.single hedge⟩⟩

/-- A mapping whose only key is an integer of more digits than are converted. -/
def longKey : Store := #[.mapping "dict" [(.int (10 ^ Numeral.digitLimit : Nat), .int 1)]]

theorem displayedEntry_longKey :
    displayedEntry longKey [] (.int (10 ^ Numeral.digitLimit : Nat), .int 1) = .error .tooManyDigits := by
  have hlimit : Numeral.limited? ((10 ^ Numeral.digitLimit : Nat) : Int) = none :=
    Numeral.limited?_eq_none (Int.natAbs_natCast _).ge
  simp only [displayedEntry, Value.int, display, Scalar.display, limitedNumeral, hlimit, Except.map]

/-- Without a text for each key the unfolding is not given, although the mapping keeps all other promises and is
not cyclic. -/
theorem longKey_not_unfolded :
    (∀ w, Reaches longKey [] (.object 0) w → Steady longKey [] w) ∧ ¬ Cyclic longKey [] (.object 0) ∧
      normalize longKey [] (.object 0) = .error .tooManyDigits := by
  have inside : 0 < longKey.size := by decide
  have hunfold : (object 0).unfold longKey [] longKey[0] = .ok (.entries [.error .tooManyDigits]) := by
    rw [← displayedEntry_longKey]
    rfl
  have hedge : ∀ w, ¬ Edge longKey [] (.object 0) w := by
    intro w h
    cases h with
    | part _ h hleads =>
      rw [hunfold] at h
      cases h
      obtain ⟨name, hmem⟩ := hleads
      cases List.mem_singleton.1 hmem
  refine ⟨fun w hw => ?_, not_cyclic_of_edges fun w hw => absurd hw (hedge w), ?_⟩
  · rcases ReflTransGen.cases_head hw with rfl | ⟨c, hc, _⟩
    · intro i hi
      cases hi
    · exact absurd hc (hedge c)
  · rw [normalize, ← outcome, outcome_object (by decide) (by decide), hunfold]
    rfl

end Value

end RecordPrint
