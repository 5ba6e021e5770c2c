import RecordPrint.Proofs.Document.Encoding
import RecordPrint.Proofs.Json.Documents
import RecordPrint.Proofs.Json.Faults
import RecordPrint.Proofs.Record.NormalForm

/-!
# Leaves without JSON text

What keeps records that have normal forms from being written as a JSON document.

* `Value.IsOffending` — the leaves without a text: numbers that are not finite, integers with too many digits, and
  values that have been left unconverted;
* `Json.faultOf_leafText` — a leaf of a normal form has a text unless it is one of these;
* `Json.document_of_leaves` — a document without such leaves is the indented spelling of what its leaves are;
* `Formatter.write_offending` — and one with such leaves fails with the fault of the first one.
-/

namespace RecordPrint

variable {σ : Store} {schema : Schema}

/-- The kind of complaint that a fault is. -/
def Fault.complaint : Fault → Complaint
  | noAttribute _ _ => .attribute
  | raised complaint _ => complaint
  | notEncodable _ | notIterable _ | notCallable _ | notName _ => .type
  | _ => .value

namespace Value

/-- A leaf of a normal form that has no JSON text, and the kind of complaint about it. -/
inductive IsOffending (v : Value) : Complaint → Prop where
  | real {x : Binary64} : v.content? = some (.float x) → x.isFinite = false → IsOffending v .value
  | integer {n : Int} : v.content? = some (.int n) → Numeral.digitLimit < (Numeral.ofNat n.natAbs).length →
    IsOffending v .value
  /-- An object that has been left unconverted. -/
  | unconverted : v.content? = none → IsOffending v .type

/-- The fault of a leaf of a normal form. -/
def leafFault? (σ : Store) (schema : Schema) (v : Value) : Option Fault :=
  match v.content? with
  | none => some (.notEncodable (v.typeName σ))
  | some (.int n) => if (Numeral.ofNat n.natAbs).length ≤ Numeral.digitLimit then none else some .tooManyDigits
  | some (.float x) => if x.isFinite then none else (v.shownWithin σ schema []).toOption.map .notFinite
  | some _ => none

/-- The cells that records supply themselves are texts, wherever a value leads to such a record. -/
def HasTextCells (σ : Store) (schema : Schema) (v : Value) : Prop :=
  ∀ (place : Nat) (inside : place < σ.size) (cs : List (Text × Value)), Reaches σ schema v (.object place) →
    (object place).unfold σ schema σ[place] = .ok (.cells cs) → ∀ c ∈ cs, c.2.IsText

/-- A leaf has a fault of some kind exactly if it is offending in this way. -/
theorem isOffending_iff {v : Value} {c : Complaint} :
    v.IsOffending c ↔ ∃ e, v.leafFault? σ schema = some e ∧ e.complaint = c := by
  constructor
  · intro h
    cases h with
    | @real x hv hx =>
      have hshown : ∃ t, v.shownWithin σ schema [] = .ok t := shownWithin_of_float hv []
      obtain ⟨t, ht⟩ := hshown
      refine ⟨.notFinite t, ?_, rfl⟩
      simp only [leafFault?, hv, hx, ht, Except.toOption, Bool.false_eq_true, if_false, Option.map_some]
    | @integer n hv hn =>
      refine ⟨.tooManyDigits, ?_, rfl⟩
      simp only [leafFault?, hv, if_neg (Nat.not_le.2 hn)]
    | unconverted hv =>
      refine ⟨.notEncodable (v.typeName σ), ?_, rfl⟩
      simp only [leafFault?, hv]
  · rintro ⟨e, he, rfl⟩
    unfold leafFault? at he
    split at he
    · rename_i hv
      cases he
      exact .unconverted hv
    · rename_i n hv
      split at he
      · cases he
      · rename_i hn
        cases he
        exact .integer hv (Nat.lt_of_not_le hn)
    · rename_i x hv
      split at he
      · cases he
      · rename_i hx
        obtain ⟨t, -, rfl⟩ := Option.map_eq_some_iff.1 he
        exact .real hv (by simpa using hx)
    · cases he

theorem leafFault?_eq_none {v : Value} (h : ∀ c, ¬ v.IsOffending c) : v.leafFault? σ schema = none := by
  cases he : v.leafFault? σ schema with
  | none => rfl
  | some e => exact absurd (isOffending_iff.2 ⟨e, he, rfl⟩) (h _)

theorem not_isOffending_of_writable {v : Value} {s : Scalar} (hv : v.content? = some s) (hs : s.Writable)
    (c : Complaint) : ¬ v.IsOffending c := by
  intro h
  cases h with
  | real hx hfinite =>
    cases hv.symm.trans hx
    obtain ⟨y, rfl⟩ := hs
    cases hfinite
  | integer hn hlong =>
    cases hv.symm.trans hn
    exact absurd hs (Nat.not_le.2 hlong)
  | unconverted hnone => cases hv.symm.trans hnone

theorem exists_writable_of_leafFault? {v : Value} (h : v.leafFault? σ schema = none) :
    ∃ s, v.content? = some s ∧ s.Writable := by
  cases hv : v.content? with
  | none =>
    simp only [leafFault?, hv] at h
    cases h
  | some s =>
    refine ⟨s, rfl, ?_⟩
    cases s with
    | null | bool | text => trivial
    | int n =>
      by_contra hn
      rw [Scalar.Writable] at hn
      simp only [leafFault?, hv, if_neg hn] at h
      cases h
    | float x =>
      cases x with
      | finite y => exact ⟨y, rfl⟩
      | nan | infinite =>
        have hshown : ∃ t, v.shownWithin σ schema [] = .ok t := shownWithin_of_float hv []
        obtain ⟨t, ht⟩ := hshown
        simp only [leafFault?, hv, ht] at h
        cases h

end Value

namespace Json

/-! ### Texts of leaves -/

/-- The text of a scalar that has one does not depend on how the scalar is displayed. -/
theorem leafText_of_content {v : Value} {s : Scalar} (hv : v.content? = some s) (hs : s.Writable) (level : Nat) :
    leafText σ schema level v = .ok (scalarSpelled s) := by
  have htext : scalarText σ schema v s = scalarText σ schema (.scalar s) s := by
    cases s with
    | float x =>
      obtain ⟨y, rfl⟩ := hs
      rfl
    | bool b => cases b <;> rfl
    | null | int | text => rfl
  have hleaf : leafText σ schema level v = leafText σ schema level (.scalar s) := by
    simp only [leafText, plain, plainWithin.eq_def, hv, htext, Value.content?]
  rw [hleaf, leafText_scalar hs]

/-- An object without parts has no JSON form; the fault names its type. -/
theorem leafText_of_partless {place : Nat}
    (h : ∀ inside : place < σ.size, partsOf? schema σ[place] = none) (level : Nat) :
    leafText σ schema level (.object place) = .error (.notEncodable ((Value.object place).typeName σ)) := by
  unfold leafText plain
  rw [plainWithin.eq_def]
  by_cases inside : place < σ.size
  · simp only [Value.content?, dif_pos inside, h inside]
    rfl
  · simp only [Value.content?, dif_neg inside]
    rfl

/-- An object that is not unfolded further has no parts. -/
theorem partsOf_of_atomic {v : Value} {node : Node}
    (h : v.unfold σ schema node = .ok .atomic) : partsOf? schema node = none := by
  obtain ⟨i, rfl, hbare⟩ := Value.unfold_eq_atomic_iff.1 h
  simp only [partsOf?, hbare.slots, hbare.isList, hbare.isMapping, Option.isSome_none, Bool.or_self,
    Bool.false_eq_true, if_false]

/-- A value that is left as it is has no JSON text unless it is a scalar. -/
theorem leafText_of_isKept {v : Value} (h : v.IsKept σ schema) (hv : v.content? = none) (level : Nat) :
    leafText σ schema level v = .error (.notEncodable (v.typeName σ)) := by
  cases h with
  | scalar | refined => cases hv
  | shape | missing | foreign =>
    rw [leafText, plain, plainWithin.eq_def]
    rfl
  | nowhere hout => exact leafText_of_partless (fun inside => absurd inside hout) level
  | atomic inside hunfold => exact leafText_of_partless (fun _ => partsOf_of_atomic hunfold) level

theorem faultOf_leafText_of_content {v : Value} {s : Scalar} (hv : v.content? = some s) (level : Nat) :
    faultOf (leafText σ schema level v) = v.leafFault? σ schema := by
  have hleaf : faultOf (leafText σ schema level v) = faultOf (scalarText σ schema v s) := by
    simp only [leafText, plain, plainWithin.eq_def, hv]
    cases scalarText σ schema v s <;> rfl
  rw [hleaf]
  cases s with
  | null | text => simp only [Value.leafFault?, hv, scalarText, faultOf]
  | bool b => cases b <;> simp only [Value.leafFault?, hv, scalarText, faultOf]
  | int n =>
    by_cases hn : (Numeral.ofNat n.natAbs).length ≤ Numeral.digitLimit
    · simp only [Value.leafFault?, hv, scalarText, limitedNumeral, Numeral.limited?, if_pos hn, faultOf]
    · simp only [Value.leafFault?, hv, scalarText, limitedNumeral, Numeral.limited?, if_neg hn, faultOf]
  | float x =>
    simp only [Value.leafFault?, hv, scalarText, realText]
    split
    · rfl
    · have hshown : ∃ t, v.shownWithin σ schema [] = .ok t := Value.shownWithin_of_float hv []
      obtain ⟨t, ht⟩ := hshown
      rw [ht]
      rfl

/-- The fault of a leaf does not depend on its level. -/
theorem faultOf_leafText {v a : Value} (ha : v.LeafFrom σ schema a) (hv : v.HasTextCells σ schema) (level : Nat) :
    faultOf (leafText σ schema level a) = a.leafFault? σ schema := by
  cases ha with
  | text t => exact faultOf_leafText_of_content rfl level
  | cell inside hreach hunfold hc =>
    obtain ⟨t, ht⟩ := hv _ inside _ hreach hunfold _ hc
    exact faultOf_leafText_of_content ht level
  | kept _ hkept =>
    cases hcontent : a.content? with
    | some s => exact faultOf_leafText_of_content hcontent level
    | none =>
      rw [leafText_of_isKept hkept hcontent]
      simp only [Value.leafFault?, hcontent, faultOf]

/-! ### Documents -/

section Documents

variable {records : List Value} {ts : List (Tree Value)}

/-- A document fails with the fault of the first leaf that has one. -/
theorem faultOf_document (hts : records.mapM (Value.normalize σ schema) = .ok ts)
    (htexts : ∀ r ∈ records, r.HasTextCells σ schema) :
    faultOf (document σ schema records) = (Tree.array ts).leaves.findSome? (Value.leafFault? σ schema) := by
  rw [document, hts]
  refine faultOf_write 0 (.array ts) fun a ha level => ?_
  cases Tree.mem_leaves.1 ha with
  | item ht ha =>
    obtain ⟨r, hr, hnormal⟩ := exists_of_mapM_eq_ok hts ht
    exact faultOf_leafText ((Value.normalize_eq_ok_iff.1 hnormal).leafFrom ha) (htexts r hr) level

/-- The scalars that the leaves of a tree are. -/
def contents (t : Tree Value) : Json := t.map fun v => v.content?.getD .null

/-- A document whose leaves all have a text is the indented spelling of what its leaves are. -/
theorem document_of_leaves (hts : records.mapM (Value.normalize σ schema) = .ok ts)
    (hnone : ∀ a, (Tree.array ts).HasLeaf a → a.leafFault? σ schema = none) :
    document σ schema records = .ok (spelled indented 0 (contents (.array ts))) := by
  have hcontent : ∀ a, (Tree.array ts).HasLeaf a → ∃ s, a.content? = some s ∧ s.Writable :=
    fun a ha => Value.exists_writable_of_leafFault? (hnone a ha)
  have hdistinct : (Tree.array ts).Distinct := by
    refine .array fun t ht => ?_
    obtain ⟨r, -, hnormal⟩ := exists_of_mapM_eq_ok hts ht
    exact (Value.normalize_eq_ok_iff.1 hnormal).distinct
  have hwellFormed : (contents (.array ts)).WellFormed := by
    refine (hdistinct.map _).wellFormed fun s hs => ?_
    obtain ⟨a, ha, rfl⟩ := hs.of_map
    obtain ⟨s, hs, hwritable⟩ := hcontent a ha
    rw [hs, Option.getD_some]
    exact hwritable
  -- each leaf has the text of the scalar that it is
  have hscalar : write (leafText σ schema) 0 ((contents (.array ts)).map Value.scalar) =
      write (fun level s => leafText σ schema level (.scalar s)) 0 (contents (.array ts)) :=
    write_map _ 0 _ fun s _ level => rfl
  have hleaf : write (fun level s => leafText σ schema level (.scalar s)) 0 (contents (.array ts)) =
      write (leafText σ schema) 0 (.array ts) := by
    refine write_map _ 0 _ fun a ha level => ?_
    obtain ⟨s, hs, hwritable⟩ := hcontent a ha
    rw [hs, Option.getD_some, leafText_of_content hs hwritable, leafText_scalar hwritable]
  rw [document, hts]
  exact (hleaf.symm.trans hscalar.symm).trans (write_spelled hwellFormed 0)

end Documents

end Json

namespace Formatter

variable {f : Formatter} {records : List Value} {ts : List (Tree Value)} {sink : Sink}

/-- A JSON document is put in one chunk, or nothing is put. -/
theorem write_document (hf : f.format? = some .json) (hsink : sink.Unfailing) :
    f.write σ schema records sink =
      match Json.document σ schema records with
      | .error e => (sink, some (.record e))
      | .ok t => ({ sink with chunks := sink.chunks ++ [t] }, none) := by
  have htexts : f.SuppliesTexts σ schema records := by
    intro hcsv
    rw [hf] at hcsv
    cases hcsv
  rw [write_eq htexts]
  simp only [encoded, hf]
  cases Json.document σ schema records with
  | error e => rfl
  | ok t => simp only [Except.map, Sink.putAll_unfailing hsink, Option.map_none]

/-- Records whose leaves all have a text are put as a whole. -/
theorem write_of_leaves (hf : f.format? = some .json) (hsink : sink.Unfailing)
    (hts : records.mapM (Value.normalize σ schema) = .ok ts)
    (hnone : ∀ a c, (Tree.array ts).HasLeaf a → ¬ a.IsOffending c) : f.write σ schema records sink =
      ({ sink with chunks := sink.chunks ++ [Json.spelled Json.indented 0 (Json.contents (.array ts))] }, none) := by
  rw [write_document hf hsink,
    Json.document_of_leaves hts fun a ha => Value.leafFault?_eq_none fun c => hnone a c ha]

/-- The first leaf without a text decides which fault is told. -/
theorem write_of_first (hf : f.format? = some .json) (hsink : sink.Unfailing)
    (hts : records.mapM (Value.normalize σ schema) = .ok ts) (htexts : ∀ r ∈ records, r.HasTextCells σ schema)
    {before after : List Value} {a : Value} {c : Complaint} (hsplit : (Tree.array ts).leaves = before ++ a :: after)
    (hbefore : ∀ b ∈ before, ∀ d, ¬ b.IsOffending d) (ha : a.IsOffending c) :
    ∃ e, a.leafFault? σ schema = some e ∧ e.complaint = c ∧
      f.write σ schema records sink = (sink, some (.record e)) := by
  obtain ⟨e, he, hc⟩ := Value.isOffending_iff.1 ha
  have hdocument : Json.document σ schema records = .error e := by
    rw [← faultOf_eq_some_iff, Json.faultOf_document hts htexts, List.findSome?_eq_some_iff]
    exact ⟨before, a, after, hsplit, he, fun b hb => Value.leafFault?_eq_none (hbefore b hb)⟩
  exact ⟨e, he, hc, by rw [write_document hf hsink, hdocument]⟩

/-- Records that are written have no leaf without a text. -/
theorem not_isOffending_of_write (hf : f.format? = some .json) (hsink : sink.Unfailing)
    (hts : records.mapM (Value.normalize σ schema) = .ok ts) (htexts : ∀ r ∈ records, r.HasTextCells σ schema)
    (h : (f.write σ schema records sink).2 = none) {a : Value} {c : Complaint} (ha : (Tree.array ts).HasLeaf a) :
    ¬ a.IsOffending c := by
  intro hoffending
  have hdocument : faultOf (Json.document σ schema records) = none := by
    rw [write_document hf hsink] at h
    cases hd : Json.document σ schema records with
    | error e =>
      rw [hd] at h
      cases h
    | ok t => rfl
  rw [Json.faultOf_document hts htexts, List.findSome?_eq_none_iff] at hdocument
  have hfault : ∃ e, a.leafFault? σ schema = some e ∧ e.complaint = c := Value.isOffending_iff.1 hoffending
  obtain ⟨e, he, -⟩ := hfault
  rw [hdocument a (Tree.mem_leaves.2 ha)] at he
  cases he

/-- Records that have normal forms, and supply texts as their cells, are written as JSON unless a leaf has no text. Then
nothing is put, and the fault is that of the first such leaf, whatever follows it. Otherwise the whole document is put
in one chunk. -/
theorem write_offending (hf : f.format? = some .json) (hts : records.mapM (Value.normalize σ schema) = .ok ts)
    (htexts : ∀ r ∈ records, r.HasTextCells σ schema) (hsink : sink.Unfailing) :
    ((f.write σ schema records sink).2 ≠ none ↔ ∃ a c, (Tree.array ts).HasLeaf a ∧ a.IsOffending c) ∧
    (∀ before a after c, (Tree.array ts).leaves = before ++ a :: after → (∀ b ∈ before, ∀ d, ¬ b.IsOffending d) →
      a.IsOffending c → ∃ e, a.leafFault? σ schema = some e ∧ e.complaint = c ∧
        f.write σ schema records sink = (sink, some (.record e))) ∧
    ((∀ a c, (Tree.array ts).HasLeaf a → ¬ a.IsOffending c) → f.write σ schema records sink =
      ({ sink with chunks := sink.chunks ++ [Json.spelled Json.indented 0 (Json.contents (.array ts))] }, none)) := by
  refine ⟨⟨fun hfails => ?_, ?_⟩, ?_, write_of_leaves hf hsink hts⟩
  · by_contra hno
    have hwritten := write_of_leaves hf hsink hts fun a c ha hoffending => hno ⟨a, c, ha, hoffending⟩
    rw [hwritten] at hfails
    exact hfails rfl
  · rintro ⟨a, c, ha, hoffending⟩ hwhole
    exact not_isOffending_of_write hf hsink hts htexts hwhole ha hoffending
  · intro before a after c hsplit hbefore ha
    exact write_of_first hf hsink hts htexts hsplit hbefore ha

/-- A dictionary of a list that holds a value inside of another dictionary, and of another value. -/
def parcel (inner outer : Value) : Store :=
  #[.mapping "dict" [(.text "a", .object 1), (.text "c", outer)], .sequence .list [.text "x", .object 2],
    .mapping "dict" [(.text "b", inner)]]

theorem hasTextCells_parcel (inner outer v : Value) : v.HasTextCells (parcel inner outer) [] := by
  intro place inside cs _ hunfold
  match place with
  | 0 | 1 | 2 => cases hunfold
  | place + 3 => exact absurd inside (by simp [parcel])

/-- The normal form of the dictionary, if its two values are left as they are. -/
def parcelTree (inner outer : Value) : Tree Value :=
  .object [("a", .array [.leaf (.text "x"), .object [("b", .leaf inner)]]), ("c", .leaf outer)]

theorem leaves_parcelTree (inner outer : Value) :
    (Tree.array [parcelTree inner outer]).leaves = [.text "x", inner, outer] := by
  simp [parcelTree, Tree.leaves]

theorem normalize_parcel {inner outer : Value} (hinner : inner.Unfolds (parcel inner outer) [] (.leaf inner))
    (houter : outer.Unfolds (parcel inner outer) [] (.leaf outer)) :
    [Value.object 0].mapM (Value.normalize (parcel inner outer) []) = .ok [parcelTree inner outer] := by
  have hdict : (Value.object 2).Unfolds (parcel inner outer) [] (.object [("b", .leaf inner)]) :=
    .entries (by simp [parcel]) rfl (show [(("b" : Text), inner)].length = [Tree.leaf inner].length from rfl)
      (by simpa using hinner)
  have hlist : (Value.object 1).Unfolds (parcel inner outer) []
      (.array [.leaf (.text "x"), .object [("b", .leaf inner)]]) :=
    .items (by simp [parcel]) rfl rfl (by simpa using ⟨.scalar _, hdict⟩)
  have hrecord : (Value.object 0).Unfolds (parcel inner outer) [] (parcelTree inner outer) :=
    .entries (by simp [parcel]) rfl (show [(("a" : Text), Value.object 1), ("c", outer)].length =
      [Tree.array [.leaf (.text "x"), .object [("b", .leaf inner)]], .leaf outer].length from rfl)
      (by simpa using ⟨hlist, houter⟩)
  rw [mapM_cons_ok (Value.normalize_eq_ok_iff.2 hrecord)]
  rfl

/-- The infinity below all numbers. -/
def minusInfinity : Value := .scalar (.float (.infinite true))

/-- A shape itself. -/
def song : Value := .shape "Song" "type"

/-- A formatter of JSON documents. -/
def json : Formatter := ⟨some "json", none, none⟩

/-- Of an infinity and a shape itself the one that stands first decides which fault is told, however deep it lies. -/
theorem write_offending_parcel :
    json.format? = some .json ∧ Sink.unlimited.Unfailing ∧
    (∀ inner outer, ∀ r ∈ [Value.object 0], r.HasTextCells (parcel inner outer) []) ∧
    json.write (parcel minusInfinity song) [] [.object 0] .unlimited =
      (.unlimited, some (.record (.notFinite "-inf"))) ∧
    json.write (parcel song minusInfinity) [] [.object 0] .unlimited =
      (.unlimited, some (.record (.notEncodable "type"))) ∧
    json.write (parcel (.text "y") .null) [] [.object 0] .unlimited =
      (⟨[Json.spelled Json.indented 0 (Json.contents (.array [parcelTree (.text "y") .null]))], none, false⟩,
        none) := by
  have hf : json.format? = some .json := rfl
  have hsink : Sink.unlimited.Unfailing := ⟨rfl, rfl⟩
  have htexts : ∀ inner outer, ∀ r ∈ [Value.object 0], r.HasTextCells (parcel inner outer) [] :=
    fun inner outer r _ => hasTextCells_parcel inner outer r
  have htext : ∀ (t : Text) c, ¬ (Value.text t).IsOffending c :=
    fun t => Value.not_isOffending_of_writable rfl trivial
  have hbefore : ∀ b ∈ [Value.text "x"], ∀ d, ¬ b.IsOffending d := by
    intro b hb
    rw [List.mem_singleton.1 hb]
    exact htext "x"
  refine ⟨hf, hsink, htexts, ?_, ?_, ?_⟩
  · have hnormal := @normalize_parcel minusInfinity song (.scalar _) (.shape _ _)
    obtain ⟨-, hfirst, -⟩ := write_offending hf hnormal (htexts _ _) hsink
    obtain ⟨e, he, -, hwrite⟩ := hfirst _ _ _ .value (leaves_parcelTree _ _) hbefore (.real rfl rfl)
    have hfault : minusInfinity.leafFault? (parcel minusInfinity song) [] = some (.notFinite "-inf") := by cbv
    rw [hwrite, Option.some.inj (he.symm.trans hfault)]
  · have hnormal := @normalize_parcel song minusInfinity (.shape _ _) (.scalar _)
    obtain ⟨-, hfirst, -⟩ := write_offending hf hnormal (htexts _ _) hsink
    obtain ⟨e, he, -, hwrite⟩ := hfirst _ _ _ .type (leaves_parcelTree _ _) hbefore (.unconverted rfl)
    cases he
    exact hwrite
  · have hnormal := @normalize_parcel (.text "y") .null (.scalar _) (.scalar _)
    obtain ⟨-, -, hwhole⟩ := write_offending hf hnormal (htexts _ _) hsink
    refine hwhole fun a c ha => ?_
    rw [← Tree.mem_leaves, leaves_parcelTree] at ha
    simp only [List.mem_cons, List.not_mem_nil, or_false] at ha
    rcases ha with rfl | rfl | rfl
    · exact htext "x" c
    · exact htext "y" c
    · exact Value.not_isOffending_of_writable (s := .null) rfl trivial c

end Formatter

end RecordPrint
