import RecordPrint.Json.Writer
import RecordPrint.Proofs.Record.Walks

/-!
# Values that two stores have in common

* `Value.Within` — a value leads to objects at the given places only;
* `Store.Shares` — the objects at the given places, and all that they hold, are the same in another store;
* `shownWithin_eq`, `display_eq`, `leafText_eq` — so what is shown, displayed or written of such a value is the same.
-/

namespace RecordPrint

/-- A value leads to objects at the given places only. -/
def Value.Within (K : Nat → Prop) : Value → Prop
  | ref v => v.Within K
  | member _ _ _ v => v.Within K
  | object place => K place
  | _ => True

/-- All that can be read of an object leads to the given places only. -/
def Node.Within (schema : Schema) (K : Nat → Prop) : Node → Prop
  | sequence _ items => ∀ v ∈ items, v.Within K
  | mapping _ entries => ∀ e ∈ entries, e.1.Within K ∧ e.2.Within K
  | .instance i => (∀ v ∈ i.items, v.Within K) ∧ (∀ e ∈ i.entries, e.1.Within K ∧ e.2.Within K) ∧
      ∀ name v, i.attribute? schema name = .ok (some v) → v.Within K

/-- The objects at the given places, and all that they lead to, are the same in another store. -/
structure Store.Shares (schema : Schema) (K : Nat → Prop) (σ σ' : Store) : Prop where
  same : ∀ place, K place → σ'[place]? = σ[place]?
  closed : ∀ place, K place → ∀ node, σ[place]? = some node → node.Within schema K

namespace Store.Shares

variable {schema : Schema} {K : Nat → Prop} {σ σ' : Store} (h : Shares schema K σ σ') {v : Value} {place : Nat}

include h

theorem inside_iff (hplace : K place) : place < σ'.size ↔ place < σ.size := by
  have hsome (τ : Store) : place < τ.size ↔ τ[place]?.isSome := by simp
  rw [hsome, hsome, h.same place hplace]

theorem getElem_eq (hplace : K place) (inside' : place < σ'.size) (inside : place < σ.size) :
    σ'[place] = σ[place] := by
  have hsame := h.same place hplace
  rw [Array.getElem?_eq_getElem inside', Array.getElem?_eq_getElem inside] at hsame
  exact Option.some.inj hsame

theorem node_within (hplace : K place) (inside : place < σ.size) : σ[place].Within schema K :=
  h.closed place hplace _ (Array.getElem?_eq_getElem inside)

/-! ### Reading -/

theorem typeName_eq (hv : v.Within K) : v.typeName σ' = v.typeName σ := by
  cases v with
  | object place => simp only [Value.typeName, h.same place hv]
  | _ => rfl

theorem getAttribute_eq (hplace : K place) : (Value.object place).getAttribute σ' schema =
    (Value.object place).getAttribute σ schema := by
  funext name
  simp only [Value.getAttribute, Value.attribute?, Value.metatype, Value.typeName, h.same place hplace]

/-- What an attribute of a record gives leads to the given places only. -/
theorem getAttribute_within (hplace : K place) {i : Instance} (hnode : σ[place]? = some (.instance i)) {name : Text}
    (hv : (Value.object place).getAttribute σ schema name = .ok v) : v.Within K := by
  obtain ⟨-, -, hattributes⟩ := h.closed place hplace _ hnode
  obtain ⟨found, hfound, hreturn⟩ := bind_eq_ok_iff.1 hv
  cases found with
  | none => cases hreturn
  | some w =>
    cases hreturn
    unfold Value.attribute? at hfound
    split at hfound
    · cases hfound
      trivial
    · simp only [hnode] at hfound
      exact hattributes name v hfound

/-! ### Showing -/

theorem displayOf_eq (hplace : K place) (node : Node) :
    (Value.object place).displayOf σ' schema node = (Value.object place).displayOf σ schema node := by
  cases node with
  | «instance» i => simp only [Value.displayOf, h.getAttribute_eq hplace]
  | _ => rfl

end Store.Shares

/-- All that is shown of an object leads to the given places only. -/
def Display.Within (K : Nat → Prop) : Display → Prop
  | sequence _ items => ∀ v ∈ items, v.Within K
  | mapping entries => ∀ e ∈ entries, e.1.Within K ∧ e.2.Within K
  | fields _ fs => ∀ name v, .ok (name, v) ∈ fs → v.Within K
  | typeOnly _ => True

/-- The parts of an object lead to the given places only. -/
theorem Node.Within.parts {schema : Schema} {K : Nat → Prop} {node : Node} (h : node.Within schema K)
    {parts : Json.Parts} (hparts : Json.partsOf? schema node = some parts) :
    match parts with
    | .items vs => ∀ v ∈ vs, v.Within K
    | .entries es => ∀ e ∈ es, e.1.Within K ∧ e.2.Within K := by
  cases node with
  | sequence kind items =>
    cases kind <;> cases hparts <;> exact h
  | mapping type entries =>
    obtain ⟨-, heq⟩ := Option.ite_none_right_eq_some.1 hparts
    cases heq
    exact h
  | «instance» i =>
    obtain ⟨hitems, hentries, -⟩ := h
    unfold Json.partsOf? at hparts
    dsimp only at hparts
    split at hparts
    · cases hparts
      exact hitems
    · obtain ⟨-, heq⟩ := Option.ite_none_right_eq_some.1 hparts
      cases heq
      exact hentries

namespace Store.Shares

variable {schema : Schema} {K : Nat → Prop} {σ σ' : Store} (h : Shares schema K σ σ') {v : Value} {place : Nat}

include h

theorem displayOf_within (hplace : K place) (inside : place < σ.size) :
    ((Value.object place).displayOf σ schema σ[place]).Within K := by
  have hnode := h.node_within hplace inside
  cases hfound : σ[place] with
  | sequence kind items =>
    rw [hfound] at hnode
    exact hnode
  | mapping type entries =>
    rw [hfound] at hnode
    unfold Value.displayOf
    dsimp only
    split
    · exact hnode
    · trivial
  | «instance» i =>
    rw [hfound] at hnode
    obtain ⟨hitems, hentries, -⟩ := hnode
    have hinstance : σ[place]? = some (.instance i) := by rw [Array.getElem?_eq_getElem inside, hfound]
    unfold Value.displayOf
    dsimp only
    split
    · intro name v hv
      obtain ⟨f, -, hf⟩ := List.mem_map.1 hv
      obtain ⟨w, hw, heq⟩ := map_eq_ok_iff.1 hf
      cases heq
      exact h.getAttribute_within hplace hinstance hw
    · intro name v hv
      obtain ⟨e, he, heq⟩ := List.mem_map.1 hv
      cases heq
      exact hitems v (List.of_mem_zip he).2
    · split
      · exact hentries
      · split
        · exact hitems
        · trivial

/-- A value that leads to these places only is shown alike in both stores. -/
theorem shownWithin_eq (opened : List Nat) (hv : v.Within K) :
    v.shownWithin σ' schema opened = v.shownWithin σ schema opened := by
  induction opened, v using Value.walk_induction (σ := σ) with
  | target opened w ih => simp only [Value.shownWithin, ih hv]
  | content opened s n m w ih => simp only [Value.shownWithin, ih hv]
  | enter opened place inside new ih =>
    have inside' := (h.inside_iff hv).2 inside
    rw [Value.shownWithin.eq_def, Value.shownWithin.eq_def σ]
    simp only [dif_pos inside, dif_pos inside', dif_neg new, h.getElem_eq hv inside' inside, h.displayOf_eq hv]
    have hwithin := h.displayOf_within hv inside
    generalize (Value.object place).displayOf σ schema σ[place] = display at hwithin ⊢
    cases display with
    | sequence kind items => exact congrArg (Except.map kind.enclose) (mapM_congr_left fun w hw => ih w (hwithin w hw))
    | mapping entries =>
      refine congrArg (Except.map encloseEntries) (mapM_congr_left fun e he => ?_)
      rw [ih e.1 (hwithin e he).1, ih e.2 (hwithin e he).2]
    | fields type fields =>
      refine congrArg (Except.map (encloseFields type)) (mapM_congr_left fun e he => ?_)
      cases e with
      | error f => rfl
      | ok p => simp only [mapEntry, Except.bind, ih p.2 (hwithin p.1 p.2 he)]
    | typeOnly type => rfl
  | stop opened v hend =>
    cases v with
    | ref w => cases hend
    | member s n m w => cases hend
    | object place =>
      rw [Value.shownWithin.eq_def, Value.shownWithin.eq_def σ]
      by_cases inside : place < σ.size
      · have inside' := (h.inside_iff hv).2 inside
        simp only [dif_pos inside, dif_pos inside', dif_pos (hend inside), h.getElem_eq hv inside' inside,
          h.displayOf_eq hv]
      · have inside' := mt (h.inside_iff hv).1 inside
        simp only [dif_neg inside, dif_neg inside', h.typeName_eq hv]
    | refined s shown form => cases s <;> rw [Value.shownWithin.eq_def, Value.shownWithin.eq_def σ]
    | _ => rw [Value.shownWithin.eq_def, Value.shownWithin.eq_def σ] <;> rfl

theorem display_eq (hv : v.Within K) : v.display σ' schema = v.display σ schema := by
  induction v with
  | member enumeration name mixin content ih => simp only [Value.display, ih hv]
  | _ => simp only [Value.display, h.shownWithin_eq [] hv]

/-! ### Plain values -/

theorem scalarText_eq (hv : v.Within K) (s : Scalar) :
    Json.scalarText σ' schema v s = Json.scalarText σ schema v s := by
  unfold Json.scalarText Json.realText
  rw [h.shownWithin_eq [] hv]

theorem nameOf_eq (hv : v.Within K) : Json.nameOf σ' schema v = Json.nameOf σ schema v := by
  unfold Json.nameOf
  simp only [h.scalarText_eq hv, h.typeName_eq hv]

theorem plainWithin_eq (opened : List Nat) (hv : v.Within K) :
    Json.plainWithin σ' schema opened v = Json.plainWithin σ schema opened v := by
  -- a value without a content is looked into only if it is an object
  have hatom (opened : List Nat) (v : Value) (hv : v.Within K) (hobject : ∀ place, v ≠ .object place) :
      Json.plainWithin σ' schema opened v = Json.plainWithin σ schema opened v := by
    rw [Json.plainWithin.eq_def, Json.plainWithin.eq_def σ]
    simp only [h.scalarText_eq hv, h.typeName_eq hv]
    cases v with
    | object place => exact absurd rfl (hobject place)
    | member s n m content => cases (Value.member s n m content).content? <;> rfl
    | _ => rfl
  induction opened, v using Value.walk_induction (σ := σ) with
  | target opened w ih => exact hatom opened _ hv fun place heq => by cases heq
  | content opened s n m w ih => exact hatom opened _ hv fun place heq => by cases heq
  | enter opened place inside new ih =>
    have inside' := (h.inside_iff hv).2 inside
    rw [Json.plainWithin.eq_def, Json.plainWithin.eq_def σ]
    simp only [Value.content?, dif_pos inside, dif_pos inside', dif_neg new, h.getElem_eq hv inside' inside,
      h.typeName_eq hv]
    cases hparts : Json.partsOf? schema σ[place] with
    | none => rfl
    | some parts =>
      have hwithin := (h.node_within hv inside).parts hparts
      cases parts with
      | items vs => exact congrArg (Except.map Tree.array) (mapM_congr_left fun w hw => ih w (hwithin w hw))
      | entries es =>
        refine congrArg (Except.map Tree.object) (mapM_congr_left fun e he => ?_)
        obtain ⟨hkey, hvalue⟩ := hwithin e he
        rw [h.nameOf_eq hkey, ih e.2 hvalue]
  | stop opened v hend =>
    cases v with
    | object place =>
      rw [Json.plainWithin.eq_def, Json.plainWithin.eq_def σ]
      by_cases inside : place < σ.size
      · have inside' := (h.inside_iff hv).2 inside
        simp only [Value.content?, dif_pos inside, dif_pos inside', dif_pos (hend inside),
          h.getElem_eq hv inside' inside, h.typeName_eq hv]
      · have inside' := mt (h.inside_iff hv).1 inside
        simp only [Value.content?, dif_neg inside, dif_neg inside', h.typeName_eq hv]
    | _ => exact hatom opened _ hv fun place heq => by cases heq

/-- A value that leads to these places only has the same text as a leaf. -/
theorem leafText_eq (hv : v.Within K) (level : Nat) :
    Json.leafText σ' schema level v = Json.leafText σ schema level v := by
  unfold Json.leafText Json.plain
  rw [h.plainWithin_eq [] hv]

end Store.Shares

end RecordPrint
