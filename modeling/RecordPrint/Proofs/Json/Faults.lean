import RecordPrint.Command.Failure
import RecordPrint.Json.Writer
import RecordPrint.Proofs.Outcome

/-!
# Faults of JSON documents

* `plainWithin_fault` — a value without a JSON form is at fault itself, whatever is read of it;
* `write_fault` — a tree is written unless one of its leaves is not;
* `document_fault` — so a document fails by the values in it, or by a record without a normal form.
-/

namespace RecordPrint

variable {σ : Store} {schema : Schema} {e : Fault}

/-- A number can always be shown. -/
theorem Value.shownWithin_of_float {v : Value} {x : Binary64} (h : v.content? = some (.float x)) (opened : List Nat) :
    ∃ t, v.shownWithin σ schema opened = .ok t := by
  induction v with
  | scalar s =>
    cases h
    exact ⟨_, by rw [shownWithin]; rfl⟩
  | refined s shown form =>
    cases h
    exact ⟨_, by rw [shownWithin]; simp⟩
  | member shape name mixin content ih =>
    have hcontent : content.content? = some (.float x) := by
      cases mixin with
      | none | timestamp => cases h
      | text | integer | real => exact h
    obtain ⟨t, ht⟩ := ih hcontent
    exact ⟨_, by rw [shownWithin, ht]; rfl⟩
  | timestamp | date | clock | path | ref | object | shape | missing | foreign => cases h

namespace Json

/-! ### Leaves -/

theorem limitedNumeral_fault {n : Int} (h : limitedNumeral n = .error e) : e.isValueFault = true := by
  unfold limitedNumeral at h
  cases hn : Numeral.limited? n with
  | some t =>
    rw [hn] at h
    cases h
  | none =>
    rw [hn] at h
    cases h
    rfl

theorem scalarText_fault {v : Value} {s : Scalar} (hv : v.content? = some s) (h : scalarText σ schema v s = .error e) :
    e.isValueFault = true := by
  cases s with
  | null => cases h
  | bool b => cases b <;> cases h
  | int n => exact limitedNumeral_fault h
  | text t => cases h
  | float x =>
    rw [scalarText, realText] at h
    split at h
    · cases h
    · have hshown : ∃ t, v.shownWithin σ schema [] = .ok t := Value.shownWithin_of_float hv []
      obtain ⟨t, ht⟩ := hshown
      rw [ht] at h
      cases h
      rfl

theorem nameOf_fault {key : Value} (h : nameOf σ schema key = .error e) : e.isValueFault = true := by
  unfold nameOf at h
  split at h
  · cases h
  · rename_i s _ hs
    exact scalarText_fault hs h
  · cases h
    rfl

/-- A value without a JSON form is at fault itself. -/
theorem plainWithin_fault {opened : List Nat} {v : Value} (h : plainWithin σ schema opened v = .error e) :
    e.isValueFault = true := by
  fun_induction plainWithin σ schema opened v generalizing e with
  | case1 opened v s hs =>
    simp only [hs] at h
    exact scalarText_fault hs (map_eq_error_iff.1 h)
  | case2 | case3 | case6 =>
    cases h
    rfl
  | case7 opened v hnone hobject =>
    simp only [hnone] at h
    cases v with
    | object place => exact absurd rfl (hobject place)
    | _ =>
      cases h
      rfl
  | case4 opened place inside new vs _ hparts ih =>
    obtain ⟨w, -, hw⟩ := exists_of_mapM_eq_error (map_eq_error_iff.1 h)
    exact ih w hw
  | case5 opened place inside new es _ hparts ih =>
    obtain ⟨entry, -, hentry⟩ := exists_of_mapM_eq_error (map_eq_error_iff.1 h)
    rcases bind_eq_error_iff.1 hentry with hname | ⟨name, -, hvalue⟩
    · exact nameOf_fault hname
    · rcases bind_eq_error_iff.1 hvalue with hvalue | ⟨_, -, hnone⟩
      · exact ih entry hvalue
      · cases hnone

/-! ### Trees -/

/-- A tree is written unless one of its leaves is not. -/
theorem write_fault {α : Type} {leaf : Nat → α → Except Fault Text} {P : Fault → Prop}
    (hleaf : ∀ level a e, leaf level a = .error e → P e) (level : Nat) (t : Tree α) :
    write leaf level t = .error e → P e := by
  refine write.induct (fun level t => ∀ e, write leaf level t = .error e → P e)
    (fun level es => ∀ e, writeEntries leaf level es = .error e → P e)
    (fun level ts => ∀ e, writeItems leaf level ts = .error e → P e) ?_ ?_ ?_ ?_ ?_ ?_ ?_ ?_ ?_ level t e
  · intro level a e h
    exact hleaf level a e h
  · intro level e h
    cases h
  · intro level items hne ih e h
    rw [write] at h
    · rcases bind_eq_error_iff.1 h with hitems | ⟨_, -, hnone⟩
      · exact ih e hitems
      · cases hnone
    · exact hne
  · intro level e h
    cases h
  · intro level entries hne ih e h
    rw [write] at h
    · rcases bind_eq_error_iff.1 h with hentries | ⟨_, -, hnone⟩
      · exact ih e hentries
      · cases hnone
    · exact hne
  · intro level e h
    cases h
  · intro level t ts ih ihs e h
    rcases bind_eq_error_iff.1 h with hfirst | ⟨_, -, h⟩
    · exact ih e hfirst
    · rcases bind_eq_error_iff.1 h with hrest | ⟨_, -, hnone⟩
      · exact ihs e hrest
      · cases hnone
  · intro level e h
    cases h
  · intro level name t es ih ihs e h
    rcases bind_eq_error_iff.1 h with hfirst | ⟨_, -, h⟩
    · exact ih e hfirst
    · rcases bind_eq_error_iff.1 h with hrest | ⟨_, -, hnone⟩
      · exact ihs e hrest
      · cases hnone

theorem leafText_fault {level : Nat} {v : Value} (h : leafText σ schema level v = .error e) :
    e.isValueFault = true := by
  rcases bind_eq_error_iff.1 h with hplain | ⟨t, -, hwritten⟩
  · exact plainWithin_fault hplain
  · -- the texts of the leaves are there already
    have hnone := write_fault (P := fun _ => False) (fun level t e h => by cases h) level t hwritten
    exact hnone.elim

/-- A document fails by a record without a normal form, or by the values in it. -/
theorem document_fault {records : List Value} (h : document σ schema records = .error e) :
    e.isValueFault = true ∨ ∃ r ∈ records, r.normalize σ schema = .error e := by
  rcases bind_eq_error_iff.1 h with hnormal | ⟨ts, -, hwritten⟩
  · exact .inr (exists_of_mapM_eq_error hnormal)
  · exact .inl (write_fault (fun _ _ _ hleaf => leafText_fault hleaf) 0 (.array ts) hwritten)

end Json

end RecordPrint
