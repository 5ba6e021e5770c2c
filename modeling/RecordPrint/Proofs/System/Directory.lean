import RecordPrint.System.Directory
import RecordPrint.Proofs.Outcome

/-!
# Files of a directory

* `entry_put` — a file that can be written to is given its new content, and keeps its mode or has that of created files;
* `entry_put_of_ne` — all other entries stay as they are.
-/

namespace RecordPrint

namespace Directory

variable {d : Directory} {place other : Place} {content : List UInt8} {path : Text}

/-- What becomes of an entry that is written to; there may have been none. -/
def written (content : List UInt8) : Option DirectoryEntry → DirectoryEntry
  | none => .file content createdMode
  | some (.file _ mode) => .file content mode
  | some entry => entry

theorem put_cons_self (entry : DirectoryEntry) (d : Directory) :
    put ((place, entry) :: d) place content = (place, written content (some entry)) :: d := by
  cases entry <;> simp [put, written]

theorem put_cons_of_ne {key : Place} (h : key ≠ place) (entry : DirectoryEntry) (d : Directory) :
    put ((key, entry) :: d) place content = (key, entry) :: put d place content := by
  rw [put.eq_def]
  exact if_neg h

/-- The entry at a place of a directory with one more entry in front. -/
theorem lookup_cons_eq (key : Place) (entry : DirectoryEntry) (d : Directory) :
    List.lookup other ((key, entry) :: d) = if other = key then some entry else d.lookup other := by
  by_cases h : other = key
  · rw [h, List.lookup_cons_self, if_pos rfl]
  · rw [List.lookup_cons, beq_eq_false_iff_ne.2 h, if_neg h]

theorem lookup_put (d : Directory) : (d.put place content).lookup other =
    if other = place then some (written content (d.lookup place)) else d.lookup other := by
  induction d with
  | nil => rw [put, lookup_cons_eq, List.lookup_nil, List.lookup_nil, written]
  | cons e d ih =>
    obtain ⟨key, entry⟩ := e
    by_cases hkey : key = place
    · subst hkey
      rw [put_cons_self, lookup_cons_eq, List.lookup_cons_self, lookup_cons_eq]
      by_cases h : other = key
      · rw [if_pos h, if_pos h]
      · rw [if_neg h, if_neg h, if_neg h]
    · have hplace : List.lookup place ((key, entry) :: d) = d.lookup place := by
        rw [lookup_cons_eq, if_neg (Ne.symm hkey)]
      rw [put_cons_of_ne hkey, lookup_cons_eq, ih, hplace, lookup_cons_eq]
      by_cases h : other = place
      · have hother : other ≠ key := fun heq => hkey (heq.symm.trans h)
        rw [if_neg hother, if_pos h, if_pos h]
      · rw [if_neg h, if_neg h]

/-! ### Files that are written to -/

/-- A place where a file is or can be created. -/
def IsWritable (d : Directory) (place : Place) : Prop :=
  d.entry? place = none ∨ ∃ content mode, d.entry? place = some (.file content mode)

/-- The mode that a file has once it is written: its own one, or that of created files. -/
def writtenMode (d : Directory) (place : Place) : Nat :=
  match d.entry? place with
  | some (.file _ mode) => mode
  | _ => createdMode

theorem writtenMode_spec (h : d.IsWritable place) : d.entry? place = none ∧ d.writtenMode place = createdMode ∨
    ∃ content, d.entry? place = some (.file content (d.writtenMode place)) := by
  unfold writtenMode
  rcases h with h | ⟨content, mode, h⟩
  · exact .inl ⟨h, by rw [h]⟩
  · exact .inr ⟨content, by rw [h]⟩

/-- What is written to as a file is one, or is not there. -/
theorem isWritable_of_writeTarget (h : d.writeTarget path = .ok (.file place)) :
    d.walk path = .ok place ∧ d.IsWritable place := by
  obtain ⟨walked, hwalk, h⟩ := bind_eq_ok_iff.1 h
  have hsame : walked = place ∧ d.IsWritable walked := by
    cases hentry : d.entry? walked with
    | none =>
      simp only [hentry] at h
      split at h
      · cases h
      · split at h
        · cases h
        · cases h
          exact ⟨rfl, .inl hentry⟩
    | some entry =>
      cases entry with
      | directory =>
        simp only [hentry] at h
        cases h
      | device device =>
        simp only [hentry] at h
        split at h
        · cases h
        · split at h <;> cases h
      | file content mode =>
        simp only [hentry] at h
        split at h
        · cases h
        · split at h
          · cases h
          · cases h
            exact ⟨rfl, .inr ⟨content, mode, hentry⟩⟩
  obtain ⟨rfl, hwritable⟩ := hsame
  exact ⟨hwalk, hwritable⟩

/-- A place where a file is or can be created is none of those that are always there. -/
theorem entry_of_isWritable (h : d.IsWritable place) (e : Directory) : e.entry? place = e.lookup place := by
  have hupward : isUpward place = false := by
    by_contra hupward
    rw [Bool.not_eq_false] at hupward
    rcases h with h | ⟨content, mode, h⟩
    · simp [Directory.entry?, hupward] at h
    · simp [Directory.entry?, hupward] at h
  have hfixed : fixed.lookup place = none := by
    by_contra hfixed
    obtain ⟨entry, hentry⟩ := Option.ne_none_iff_exists'.1 hfixed
    have hfound : d.entry? place = some entry := by simp [Directory.entry?, hupward, hentry]
    obtain ⟨before, behind, hmem, -⟩ := List.lookup_eq_some_iff.1 hentry
    have hfile : ∀ e ∈ fixed, ∀ content mode, e.2 ≠ .file content mode := by simp [fixed]
    rcases h with h | ⟨content, mode, h⟩
    · rw [hfound] at h
      cases h
    · rw [hfound] at h
      cases h
      exact hfile _ (hmem ▸ List.mem_append_right _ List.mem_cons_self) content mode rfl
  simp [Directory.entry?, hupward, hfixed]

theorem entry_put_of_ne (h : other ≠ place) : Directory.entry? (d.put place content) other = d.entry? other := by
  rw [Directory.entry?, Directory.entry?, lookup_put, if_neg h]

/-- A file that can be written to has the new content then, and keeps its mode. -/
theorem entry_put (h : d.IsWritable place) :
    Directory.entry? (d.put place content) place = some (.file content (d.writtenMode place)) := by
  have hentry := entry_of_isWritable h
  rw [hentry, lookup_put, if_pos rfl, ← hentry, writtenMode]
  rcases h with h | ⟨old, mode, h⟩
  · rw [h]
    rfl
  · rw [h]
    rfl

end Directory

end RecordPrint
