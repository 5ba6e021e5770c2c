import RecordPrint.Document.Formatter
import RecordPrint.Proofs.Json.Records
import RecordPrint.Proofs.Record.Denotation

/-!
# JSON documents

* `document_spelled` — the document of records that denote trees is the indented spelling of the array of the trees;
* `readRecords_written` — the objects that records denote are read back from what is written for the records.
-/

namespace RecordPrint

namespace Json

variable {σ : Store} {schema : Schema}

/-! ### Indented texts -/

theorem leafText_scalar {s : Scalar} (hs : s.Writable) (level : Nat) :
    leafText σ schema level (.scalar s) = .ok (scalarSpelled s) := by
  have htext : scalarText σ schema (.scalar s) s = .ok (scalarSpelled s) := by
    cases s with
    | null => rfl
    | bool b => cases b <;> rfl
    | int n =>
      rw [scalarText, limitedNumeral, Numeral.limited?_eq_some hs]
      rfl
    | float x =>
      obtain ⟨y, rfl⟩ := hs
      rfl
    | text t => rfl
  have hplain : plain σ schema (.scalar s) = .ok (.leaf (scalarSpelled s)) := by
    rw [plain, plainWithin.eq_def]
    simp only [Value.content?, htext]
    rfl
  rw [leafText, hplain]
  rfl

/-- The leaves of a tree have JSON texts, so the tree is written with them. -/
def IsWritten (σ : Store) (schema : Schema) (j : Json) : Prop :=
  ∀ level, write (leafText σ schema) level (j.map Value.scalar) = .ok (spelled indented level j)

theorem writeItems_spelled {t : Json} {ts : List Json} (h : ∀ t' ∈ t :: ts, IsWritten σ schema t') (level : Nat) :
    writeItems (leafText σ schema) level ((t :: ts).map (Tree.map Value.scalar)) =
      .ok (newline level ++ spelledItems indented level (t :: ts)) := by
  induction ts generalizing t with
  | nil =>
    rw [List.map_cons, writeItems, h t List.mem_cons_self]
    simp [bind, Except.bind, pure, Except.pure, writeItems, spelledItems]
  | cons t' ts ih =>
    have hitems : spelledItems indented level (t :: t' :: ts) =
        spelled indented level t ++ .char ',' :: newline level ++ spelledItems indented level (t' :: ts) := by
      rw [spelledItems]
      rfl
    rw [List.map_cons, writeItems, h t List.mem_cons_self, ih fun x hx => h x (List.mem_cons_of_mem _ hx), hitems]
    simp [bind, Except.bind, pure, Except.pure]

theorem writeEntries_spelled {e : Text × Json} {es : List (Text × Json)}
    (h : ∀ e' ∈ e :: es, IsWritten σ schema e'.2) (level : Nat) :
    writeEntries (leafText σ schema) level ((e :: es).map fun e => (e.1, Tree.map Value.scalar e.2)) =
      .ok (newline level ++ spelledEntries indented level (e :: es)) := by
  induction es generalizing e with
  | nil =>
    rw [List.map_cons, writeEntries, h e List.mem_cons_self]
    simp [bind, Except.bind, pure, Except.pure, writeEntries, spelledEntries, indented]
  | cons e' es ih =>
    have hentries : spelledEntries indented level (e :: e' :: es) = quote e.1 ++ .char ':' :: .char ' ' ::
        spelled indented level e.2 ++ .char ',' :: newline level ++ spelledEntries indented level (e' :: es) := by
      rw [spelledEntries]
      simp [indented]
    rw [List.map_cons, writeEntries, h e List.mem_cons_self, ih fun x hx => h x (List.mem_cons_of_mem _ hx), hentries]
    simp [bind, Except.bind, pure, Except.pure]

/-- A well-formed tree is written as its indented spelling. -/
theorem write_spelled {j : Json} (hj : j.WellFormed) : IsWritten σ schema j := by
  induction hj with
  | leaf hs =>
    intro level
    rw [Tree.map, write, spelled]
    exact leafText_scalar hs level
  | @array items hitems ih =>
    intro level
    rw [Tree.map]
    cases items with
    | nil => rfl
    | cons t ts =>
      have hitems := writeItems_spelled ih (level + 1)
      rw [List.map_cons] at hitems ⊢
      rw [write, hitems, spelled]
      · simp [bind, Except.bind, pure, Except.pure, indented]
      · exact List.cons_ne_nil _ _
  | @object entries hnames hentries ih =>
    intro level
    rw [Tree.map]
    cases entries with
    | nil => rfl
    | cons e es =>
      have hentries := writeEntries_spelled ih (level + 1)
      rw [List.map_cons] at hentries ⊢
      rw [write, hentries, spelled]
      · simp [bind, Except.bind, pure, Except.pure, indented]
      · exact List.cons_ne_nil _ _

/-- The document of records that denote trees is the indented spelling of the array of the trees. -/
theorem document_spelled {records : List Value} {js : List Json} (hjs : ∀ j ∈ js, j.WellFormed)
    (h : List.Forall₂ (Value.Denotes σ) records js) :
    document σ schema records = .ok (spelled indented 0 (.array js)) := by
  have hnormal : records.mapM (Value.normalize σ schema) = .ok (js.map (Tree.map Value.scalar)) := by
    rw [mapM_eq_ok_iff, List.forall₂_map_right_iff]
    obtain ⟨hlen, hzip⟩ := List.forall₂_iff_zip.1 h
    refine List.forall₂_iff_zip.2 ⟨hlen, fun {v j} hp => ?_⟩
    exact Value.normalize_eq_ok_iff.2 ((hzip hp).unfolds (hjs j (List.of_mem_zip hp).2))
  have hwritten : IsWritten σ schema (.array js) := write_spelled (.array hjs)
  have hwritten := hwritten 0
  rw [Tree.map] at hwritten
  rw [document, hnormal]
  exact hwritten

end Json

namespace Formatter

open Json Value

variable {σ : Store} {schema : Schema}

theorem write_json {f : Formatter} (hf : f.format? = some .json) {records : List Value} {t : Text}
    (h : document σ schema records = .ok t) : f.write σ schema records .unlimited = (⟨[t], none, false⟩, none) := by
  rw [write, chunks, hf]
  simp only [chunksIn, h]
  rfl

theorem wellFormed_objects {os : List JsonRecord} (hos : ∀ o ∈ os, (Tree.object o).WellFormed) :
    ∀ j ∈ os.map Tree.object, j.WellFormed := by
  intro j hj
  obtain ⟨o, ho, rfl⟩ := List.mem_map.1 hj
  exact hos o ho

/-- Records that denote JSON objects are written as a text from which the objects are read back, and the records that
the objects are loaded as are written as the same text. -/
theorem readRecords_written {f : Formatter} (hf : f.format? = some .json) {records : List Value}
    {os : List JsonRecord} (hos : ∀ o ∈ os, (Tree.object o).WellFormed)
    (h : List.Forall₂ (Denotes σ) records (os.map .object)) :
    ∃ t, f.write σ schema records .unlimited = (⟨[t], none, false⟩, none) ∧ readRecords t = .ok os ∧
      f.write (Store.ofRecords os).2 schema (Store.ofRecords os).1 .unlimited = (⟨[t], none, false⟩, none) := by
  have hwf := wellFormed_objects hos
  have hloaded := Store.denotes_ofRecords os
  exact ⟨spelled indented 0 (.array (os.map .object)), write_json hf (document_spelled hwf h),
    readRecords_array valid_indented hos, write_json hf (document_spelled hwf hloaded)⟩

/-- A dictionary whose only entry is a list of a whole number and a negative zero. -/
def nested : Store :=
  #[.mapping "dict" [(.text "a", .object 1)], .sequence .list [.int 1, .scalar (.float (.zero true))]]

/-- The object that the dictionary denotes. -/
def nestedObject : JsonRecord := [("a", .array [.leaf (.int 1), .leaf (.float (.zero true))])]

theorem denotes_nested : Denotes nested (.object 0) (.object nestedObject) := by
  have hlist : Denotes nested (.object 1) (.array [.leaf (.int 1), .leaf (.float (.zero true))]) := by
    refine .list rfl rfl fun p hp => ?_
    simp only [List.zip_cons_cons, List.zip_nil_right, List.mem_cons, List.not_mem_nil, or_false] at hp
    rcases hp with rfl | rfl <;> exact .scalar _
  have hdict : Denotes nested (.object 0) (.object ((([("a", .object 1)] : List (Text × Value)).map Prod.fst).zip
      [.array [.leaf (.int 1), .leaf (.float (.zero true))]])) := by
    refine .dict rfl rfl fun p hp => ?_
    rw [List.mem_singleton.1 hp]
    exact hlist
  exact hdict

theorem wellFormed_nested : (Tree.object nestedObject).WellFormed := by
  refine .object (List.pairwise_singleton _ _) fun e he => ?_
  rw [List.mem_singleton.1 he]
  refine .array fun t ht => ?_
  simp only [List.mem_cons, List.not_mem_nil, or_false] at ht
  rcases ht with rfl | rfl
  · exact .leaf (by decide : (Numeral.ofNat 1).length ≤ Numeral.digitLimit)
  · exact .leaf ⟨_, rfl⟩

theorem readRecords_written_nested : (⟨some "json", ⟨none, none⟩⟩ : Formatter).format? = some .json ∧
    (∀ o ∈ [nestedObject], (Tree.object o).WellFormed) ∧
    List.Forall₂ (Denotes nested) [.object 0] ([nestedObject].map .object) ∧
    ∃ t, (⟨some "json", ⟨none, none⟩⟩ : Formatter).write nested [] [.object 0] .unlimited =
      (⟨[t], none, false⟩, none) ∧ readRecords t = .ok [nestedObject] := by
  have hformat : (⟨some "json", ⟨none, none⟩⟩ : Formatter).format? = some .json := by decide
  have hwf : ∀ o ∈ [nestedObject], (Tree.object o).WellFormed := by
    intro o ho
    rw [List.mem_singleton.1 ho]
    exact wellFormed_nested
  have hdenotes : List.Forall₂ (Denotes nested) [.object 0] ([nestedObject].map .object) :=
    .cons denotes_nested .nil
  obtain ⟨t, hwritten, hread, -⟩ := readRecords_written hformat hwf hdenotes
  exact ⟨hformat, hwf, hdenotes, t, hwritten, hread⟩

end Formatter

end RecordPrint
