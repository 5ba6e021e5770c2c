import RecordPrint.Document.Formatter
import RecordPrint.Proofs.Document.Leaves
import RecordPrint.Proofs.Record.Wrapped
import RecordPrint.Proofs.Schema.Declared
import RecordPrint.Proofs.Schema.Indirection

/-!
# Documents of values behind references

What references around records, and around the values that they hold, change of a document.

* `Store.WrappedAs.document_eq` — nothing in JSON, whatever their number;
* `Layout.columns_eq`, `Layout.rows_eq` — nothing in a table, if there is at most one around each record and one level
  of indirection in the record type;
* `Formatter.write_wrapped` — so the formatter writes the same to each sink;
* `Value.wrapping_shows` — what lies in the way of a method, in keys and in supplied cells has to stay as it is.
-/

namespace RecordPrint

/-! ### JSON -/

namespace Store.WrappedAs

variable {schema : Schema} {K : Nat → Prop} {σ σ' : Store} (h : WrappedAs schema K σ σ')

include h

/-- Each leaf of a normal form is written the same. -/
theorem leafText_eq {v a : Value} (ha : v.LeafFrom σ schema a) (level : Nat) :
    Json.leafText σ' schema level a = Json.leafText σ schema level a := by
  cases ha with
  | text t =>
    refine h.shares.leafText_eq ?_ level
    trivial
  | kept _ hkept =>
    cases hkept with
    | scalar | refined | shape | missing | foreign =>
      refine h.shares.leafText_eq ?_ level
      trivial
    | nowhere hout =>
      have hout' := h.size ▸ hout
      rw [Json.leafText_of_isKept (.nowhere hout) rfl, Json.leafText_of_isKept (.nowhere hout') rfl, h.typeName_eq]
    | atomic inside hunfold =>
      have inside' := h.size ▸ inside
      obtain ⟨u, hunfold', hu⟩ := (hunfold ▸ h.unfold_agree inside inside').exists_of_ok
      cases hu
      rw [Json.leafText_of_isKept (.atomic inside hunfold) rfl, Json.leafText_of_isKept (.atomic inside' hunfold') rfl,
        h.typeName_eq]
  | cell inside _ hunfold hc =>
    obtain ⟨u, -, hu⟩ := (hunfold ▸ h.unfold_agree inside (h.size ▸ inside)).exists_of_ok
    cases hu with
    | cells hwithin => exact h.shares.leafText_eq (hwithin _ hc) level

/-- The document of values is the same with references around the values and around all that they hold. -/
theorem document_eq {vs ws : List Value} (hvs : List.Forall₂ Value.WrappedAs vs ws) :
    Json.document σ' schema ws = Json.document σ schema vs := by
  have hnormal : vs.mapM (Value.normalize σ schema) = ws.mapM (Value.normalize σ' schema) :=
    mapM_congr hvs fun v w hvw => (h.normalize_eq hvw).symm
  unfold Json.document
  rw [← hnormal]
  cases hts : vs.mapM (Value.normalize σ schema) with
  | error e => rfl
  | ok ts =>
    refine Json.write_congr 0 fun a ha level => ?_
    cases ha with
    | item ht ha =>
      obtain ⟨v, -, hv⟩ := exists_of_mapM_eq_ok hts ht
      exact h.leafText_eq ((Value.normalize_eq_ok_iff.1 hv).leafFrom ha) level

end Store.WrappedAs

/-! ### Tables -/

namespace TypeExpr

/-- A class, as which a value can be made. -/
inductive IsClass : TypeExpr → Prop
  | builtin (name : Text) : IsClass (builtin name)
  | nothing : IsClass absent
  | shape (name : Text) : IsClass (shape name)
  | reference : IsClass reference

/-- A record type or none, and the ways to spell it with one level of indirection. -/
inductive SpelledAs : Option TypeExpr → Option TypeExpr → Prop
  | none : SpelledAs none none
  | self {c : TypeExpr} : c.IsClass → SpelledAs (some c) (some c)
  | ref {c : TypeExpr} : c.IsClass → SpelledAs (some c) (some (ref c))
  | optional {c : TypeExpr} : c.IsClass → SpelledAs (some c) (some (union [c, absent]))

theorem IsClass.deref_eq {c : TypeExpr} (hc : c.IsClass) : c.deref = c := by
  cases hc <;> rfl

theorem IsClass.deref_optional {c : TypeExpr} (hc : c.IsClass) : (union [c, .absent]).deref = c := by
  cases hc with
  | builtin name => exact TypeExpr.deref_optional (.builtin name)
  | nothing => rfl
  | shape name => exact TypeExpr.deref_optional (.shape name)
  | reference => exact TypeExpr.deref_optional .reference

end TypeExpr

/-- A record that is no reference, as it is or with one reference around it. -/
inductive Value.OnceWrappedAs : Value → Value → Prop where
  | self {v : Value} : (∀ w, v ≠ .ref w) → OnceWrappedAs v v
  | ref {v : Value} : (∀ w, v ≠ .ref w) → OnceWrappedAs v (.ref v)

theorem Value.OnceWrappedAs.deref_eq {v w : Value} (h : v.OnceWrappedAs w) : w.deref = v.deref := by
  have hbare : (∀ w, v ≠ .ref w) → v.deref = v := by
    intro hv
    cases v with
    | ref w => exact absurd rfl (hv w)
    | _ => rfl
  cases h with
  | self => rfl
  | ref hv => exact (hbare hv).symm

namespace Layout

variable {σ : Store} {schema : Schema} {t t' : Option TypeExpr} {fields : Option (List Field)} {vs ws : List Value}
  (ht : TypeExpr.SpelledAs t t') (hvs : List.Forall₂ Value.OnceWrappedAs vs ws)

include ht hvs

theorem rowType_eq : rowType ⟨t', fields⟩ σ ws = rowType ⟨t, fields⟩ σ vs := by
  unfold rowType
  cases ht with
  | none =>
    cases hvs with
    | nil => rfl
    | cons hvw _ => simp only [List.head?_cons, Option.map_some, hvw.deref_eq]
  | self => rfl
  | ref hc => exact congrArg some hc.deref_eq.symm
  | optional hc => exact congrArg some (hc.deref_optional.trans hc.deref_eq.symm)

theorem columns_eq : columns ⟨t', fields⟩ σ schema ws = columns ⟨t, fields⟩ σ schema vs := by
  have hkeys : firstKeys σ schema ws = firstKeys σ schema vs := by
    cases hvs with
    | nil => rfl
    | cons hvw _ => simp only [firstKeys, List.head?_cons, Option.bind_some, hvw.deref_eq]
  unfold columns
  rw [rowType_eq ht hvs, hkeys]

theorem rows_eq : rows ⟨t', fields⟩ σ schema ws = rows ⟨t, fields⟩ σ schema vs := by
  have hheaders : suppliedHeaders? ⟨t', fields⟩ σ schema ws = suppliedHeaders? ⟨t, fields⟩ σ schema vs := by
    unfold suppliedHeaders?
    rw [rowType_eq ht hvs]
  have hsupplied : ws.mapM (suppliedRow σ schema) = vs.mapM (suppliedRow σ schema) :=
    (mapM_congr hvs fun v w hvw => by simp only [suppliedRow, hvw.deref_eq]).symm
  have hrow (fs : List Field) : ws.mapM (row σ schema fs) = vs.mapM (row σ schema fs) :=
    (mapM_congr hvs fun v w hvw => by simp only [row, hvw.deref_eq]).symm
  simp only [rows, hheaders, hsupplied, columns_eq ht hvs, hrow]

end Layout

/-! ### Formatters -/

/-- One level of indirection does not show in tables: not around any of the records, and not in the record type. In a
JSON document no number of references shows, around the records and around all that they hold. -/
theorem Formatter.write_wrapped (schema : Schema) :
    (∀ (σ : Store) (t t' : Option TypeExpr) (fields : Option (List Field)) (vs ws : List Value),
      TypeExpr.SpelledAs t t' → List.Forall₂ Value.OnceWrappedAs vs ws →
        Layout.columns ⟨t', fields⟩ σ schema ws = Layout.columns ⟨t, fields⟩ σ schema vs ∧
        Layout.rows ⟨t', fields⟩ σ schema ws = Layout.rows ⟨t, fields⟩ σ schema vs ∧
        ∀ selector, Format.ofSelector? selector = some .csv → ∀ sink,
          write ⟨selector, ⟨t', fields⟩⟩ σ schema ws sink = write ⟨selector, ⟨t, fields⟩⟩ σ schema vs sink) ∧
    ∀ (K : Nat → Prop) (σ σ' : Store), σ.WrappedAs schema K σ' →
      (∀ v w : Value, v.WrappedAs w → w.normalize σ' schema = v.normalize σ schema) ∧
      ∀ vs ws : List Value, List.Forall₂ Value.WrappedAs vs ws →
        Json.document σ' schema ws = Json.document σ schema vs ∧
        ∀ f : Formatter, f.format? = some .json → ∀ sink, f.write σ' schema ws sink = f.write σ schema vs sink := by
  refine ⟨fun σ t t' fields vs ws ht hvs => ?_,
    fun K σ σ' h => ⟨fun v w hvw => h.normalize_eq hvw, fun vs ws hvs => ?_⟩⟩
  · have hrows : Layout.rows ⟨t', fields⟩ σ schema ws = Layout.rows ⟨t, fields⟩ σ schema vs := Layout.rows_eq ht hvs
    refine ⟨Layout.columns_eq ht hvs, hrows, fun selector hselector sink => ?_⟩
    simp only [write, chunks, format?, hselector, chunksIn, hrows]
  · have hdocument := h.document_eq hvs
    refine ⟨hdocument, fun f hf sink => ?_⟩
    simp only [write, chunks, hf, chunksIn, hdocument]

/-- A shape with a text and a list. -/
def songSchema : Schema := .ofDecls [⟨"Song", .plain, [], [⟨"title", .builtin "str", none, none⟩,
  ⟨"tags", .builtin "list", none, none⟩], [], false, none, []⟩]

/-- A list of tags, a song with these tags, a pair of numbers, and a mapping from the pair to the song. -/
def songs (around : Value → Value) : Store :=
  #[.sequence .list [around (.text "calm")],
    .instance ⟨"Song", [("title", around (.text "Dawn")), ("tags", around (.object 0))], [], [], [], .ok .null⟩,
    .sequence .tuple [.int 2, .int 3], .mapping "dict" [(.object 2, around (.object 1))]]

theorem wrappedAs_songs : (songs id).WrappedAs songSchema (· = 2) (songs fun v => .ref (.ref v)) := by
  have hwrapped {v : Value} (hv : v ≠ .missing) : v.WrappedAs (.ref (.ref v)) := .ref hv (.ref hv (.self v))
  refine ⟨rfl, fun place inside inside' => ?_, fun place hplace => ?_, fun place hplace node hnode => ?_⟩
  · match place with
    | 0 => exact .list (.cons (hwrapped nofun) .nil)
    | 1 =>
      refine .instance ⟨rfl, ?_, .nil, .nil, .result (.self _), rfl, ?_, ?_⟩
      · exact Instance.attributes_agree rfl (.cons ⟨rfl, hwrapped nofun⟩ (.cons ⟨rfl, hwrapped nofun⟩ .nil)) .nil .nil
      · rintro ⟨-, -, -, -, -, headers, hheaders⟩
        cases hheaders
      · rintro ⟨-, -, -, -, -, headers, hheaders⟩
        cases hheaders
    | 2 => exact .tuple (Value.wrappedAs_same _)
    | 3 => exact .mapping (.cons ⟨rfl, rfl, hwrapped nofun⟩ .nil)
    | place + 4 => exact absurd inside (by simp [songs])
  · subst hplace
    rfl
  · subst hplace
    obtain rfl : Node.sequence .tuple [.int 2, .int 3] = node := Option.some.inj hnode
    simp [Node.Within, Value.Within, Value.int]

theorem Formatter.write_wrapped_songs :
    Layout.columns ⟨some (.ref (.shape "Song")), none⟩ (songs id) songSchema [.ref (.object 1)] =
      Layout.columns ⟨some (.shape "Song"), none⟩ (songs id) songSchema [.object 1] ∧
    Layout.rows ⟨some (.ref (.shape "Song")), none⟩ (songs id) songSchema [.ref (.object 1)] =
      Layout.rows ⟨some (.shape "Song"), none⟩ (songs id) songSchema [.object 1] ∧
    (∀ sink, write ⟨some "csv", some (.ref (.shape "Song")), none⟩ (songs id) songSchema [.ref (.object 1)] sink =
      write ⟨some "csv", some (.shape "Song"), none⟩ (songs id) songSchema [.object 1] sink) ∧
    (Value.ref (.object 3)).normalize (songs fun v => .ref (.ref v)) songSchema =
      (Value.object 3).normalize (songs id) songSchema ∧
    Json.document (songs fun v => .ref (.ref v)) songSchema [.ref (.object 3), .object 1] =
      Json.document (songs id) songSchema [.object 3, .object 1] ∧
    ∀ sink, write ⟨some "json", none, none⟩ (songs fun v => .ref (.ref v)) songSchema
        [.ref (.object 3), .object 1] sink =
      write ⟨some "json", none, none⟩ (songs id) songSchema [.object 3, .object 1] sink := by
  obtain ⟨htables, hdocuments⟩ := write_wrapped songSchema
  obtain ⟨hcolumns, hrows, hcsv⟩ := htables (songs id) (some (.shape "Song")) (some (.ref (.shape "Song"))) none
    [.object 1] [.ref (.object 1)] (.ref (.shape "Song")) (.cons (.ref nofun) .nil)
  obtain ⟨hnormalize, hjson⟩ := hdocuments _ _ _ wrappedAs_songs
  obtain ⟨hdocument, hwrite⟩ := hjson [.object 3, .object 1] [.ref (.object 3), .object 1]
    (.cons (.ref nofun (.self _)) (.cons (.self _) .nil))
  exact ⟨hcolumns, hrows, hcsv (some "csv") rfl, hnormalize _ _ (.ref nofun (.self _)), hdocument,
    hwrite ⟨some "json", none, none⟩ rfl⟩

/-- A shape whose records supply the list of owners as their only cell, and declare a field by the name of the method
that does so. -/
def badgeSchema : Schema := .ofDecls [⟨"Badge", .plain, [], [⟨"owners", .builtin "list", none, none⟩,
  ⟨rowName, .builtin "int", none, none⟩], [], false, some ⟨some ["owners"], some ["owners"]⟩, []⟩]

/-- A badge with one field set. -/
def badge (name : Text) (v : Value) : Node := .instance ⟨"Badge", [(name, v)], [], [], [], .ok .null⟩

/-- A list of an owner, a badge with this list, a badge with another value in place of its method, and a mapping from
the owner as a tuple. -/
def badges (owner held : Value) : Store :=
  #[.sequence .list [owner], badge "owners" (.object 0), badge rowName held, .sequence .tuple [owner],
    .mapping "dict" [(.object 3, .int 2)]]

theorem normalize_badge (owner held : Value) : (Value.object 2).normalize (badges owner held) badgeSchema =
    .error (.notCallable (held.typeName (badges owner held))) := by
  have hinside : 2 < (badges owner held).size := by simp [badges]
  exact Value.outcome_object hinside List.not_mem_nil

theorem display_owners {owner held : Value} {t : Text}
    (h : owner.shownWithin (badges owner held) [] [3] = .ok t) :
    (Value.object 3).display (badges owner held) [] = .ok (SequenceKind.tuple.enclose [t]) := by
  have hinside : 3 < (badges owner held).size := by simp [badges]
  have hitems : [owner].mapM (fun w => w.shownWithin (badges owner held) [] [3]) = .ok [t] := by
    rw [mapM_cons_ok h]
    rfl
  simp only [Value.display, Value.shownWithin]
  rw [dif_pos hinside, dif_neg List.not_mem_nil]
  exact congrArg (Except.map SequenceKind.tuple.enclose) hitems

theorem normalize_owned {owner held : Value} {t : Text}
    (h : owner.shownWithin (badges owner held) [] [3] = .ok t) :
    (Value.object 4).normalize (badges owner held) [] =
      .ok (.object [(SequenceKind.tuple.enclose [t], .leaf (.int 2))]) := by
  have hinside : 4 < (badges owner held).size := by simp [badges]
  have hentry : Value.displayedEntry (badges owner held) [] (.object 3, .int 2) =
      .ok (SequenceKind.tuple.enclose [t], .int 2) := by
    rw [Value.displayedEntry, display_owners h]
    rfl
  refine Value.normalize_eq_ok_iff.2 (@Value.Unfolds.entries _ _ 4 [(_, .int 2)] [.leaf (.int 2)] hinside
    (congrArg (fun e => Except.ok (Unfolding.entries [e])) hentry) rfl fun p hp => ?_)
  rw [List.mem_singleton.1 hp]
  exact .scalar _

theorem document_badge (owner held : Value) : Json.document (badges owner held) badgeSchema [.object 1] =
    Json.write (Json.leafText (badges owner held) badgeSchema) 0
      (.array [.object [("owners", .leaf (.object 0))]]) := by
  have hinside : 1 < (badges owner held).size := by simp [badges]
  have hnormal : (Value.object 1).normalize (badges owner held) badgeSchema =
      .ok (.object [("owners", .leaf (.object 0))]) := Value.outcome_object hinside List.not_mem_nil
  rw [Json.document, mapM_cons_ok hnormal]
  rfl

/-- A reference shows where a record holds it in place of a method that is called, in a key of a mapping, and in a
cell that a record supplies itself. -/
theorem Value.wrapping_shows :
    ((object 2).normalize (badges (.int 1) (.int 5)) badgeSchema = .error (.notCallable "int") ∧
      (object 2).normalize (badges (.int 1) (.ref (.int 5))) badgeSchema = .error (.notCallable "Ref")) ∧
    ((object 4).normalize (badges (.int 1) (.int 5)) [] = .ok (.object [("(1,)", .leaf (.int 2))]) ∧
      (object 4).normalize (badges (.ref (.int 1)) (.int 5)) [] =
        .ok (.object [("(Ref(target=1),)", .leaf (.int 2))])) ∧
    (Json.document (badges (.int 1) (.int 5)) badgeSchema [.object 1] =
        .ok "[\n  \x7b\n    \"owners\": [\n      1\n    ]\n  \x7d\n]" ∧
      Json.document (badges (.ref (.int 1)) (.int 5)) badgeSchema [.object 1] = .error (.notEncodable "Ref")) := by
  have hleaf : Json.leafText (badges (.int 1) (.int 5)) badgeSchema 2 (.object 0) = .ok "[\n      1\n    ]" := by
    decide +kernel
  have hleaf' : Json.leafText (badges (.ref (.int 1)) (.int 5)) badgeSchema 2 (.object 0) =
      .error (.notEncodable "Ref") := by decide +kernel
  have hshown (σ : Store) : (int 1).shownWithin σ [] [3] = .ok "1" := by
    rw [shownWithin.eq_def]
    rfl
  have hshown' (σ : Store) : (ref (.int 1)).shownWithin σ [] [3] = .ok "Ref(target=1)" := by
    rw [shownWithin, hshown]
    rfl
  refine ⟨⟨normalize_badge _ _, normalize_badge _ _⟩, ⟨normalize_owned (hshown _), normalize_owned (hshown' _)⟩, ?_, ?_⟩
  · rw [document_badge]
    simp only [Json.write, Json.writeItems, Json.writeEntries, hleaf]
    rfl
  · rw [document_badge]
    simp only [Json.write, Json.writeItems, Json.writeEntries, hleaf']
    rfl

end RecordPrint
