import RecordPrint.Document.Formatter
import RecordPrint.Proofs.Document.Encoding
import RecordPrint.Proofs.Record.Labels

/-!
# Documents and labels

What is written for records under schemas that differ in nothing but labels.

* `Schema.Alike.document_eq` — JSON documents are the same;
* `Schema.Alike.sameBelow_rows` — tables are the same below their headers;
* `Formatter.write_labels` — so the labels of declarations show in the headers of tables and nowhere else;
* `Schema.names_of_classVars` — unless alternatives that declare one attribute of a shape are told apart by labels.
-/

namespace RecordPrint

/-- Tables that differ in nothing but the texts of their headers, or one fault in place of both. -/
inductive SameBelow : Except Fault (List Row) → Except Fault (List Row) → Prop where
  | fault (e : Fault) : SameBelow (.error e) (.error e)
  | table {header header' : List Text} (rows : List Row) : header.length = header'.length →
    SameBelow (.ok (header.map Value.text :: rows)) (.ok (header'.map Value.text :: rows))

namespace Schema.Alike

variable {schema schema' : Schema} (h : schema.Alike schema') (σ : Store)

include h

/-! ### JSON -/

theorem scalarText_eq : Json.scalarText σ schema = Json.scalarText σ schema' := by
  funext v s
  unfold Json.scalarText Json.realText
  rw [h.shownWithin_eq σ]

theorem nameOf_eq : Json.nameOf σ schema = Json.nameOf σ schema' := by
  funext key
  unfold Json.nameOf
  rw [h.scalarText_eq σ]

theorem partsOf_eq : Json.partsOf? schema = Json.partsOf? schema' := by
  funext node
  unfold Json.partsOf?
  simp only [h.slots, h.isList, h.isMapping]

theorem plainWithin_eq : Json.plainWithin σ schema = Json.plainWithin σ schema' := by
  funext opened v
  -- a value without a content is looked into only if it is an object
  have hatom : ∀ opened v, (∀ place, v ≠ .object place) →
      Json.plainWithin σ schema opened v = Json.plainWithin σ schema' opened v := by
    intro opened v hobject
    rw [Json.plainWithin.eq_def, Json.plainWithin.eq_def, h.scalarText_eq σ]
    cases v with
    | object place => exact absurd rfl (hobject place)
    | member s n m content => cases (Value.member s n m content).content? <;> rfl
    | _ => rfl
  induction opened, v using Value.walk_induction (σ := σ) with
  | target opened w ih => exact hatom opened _ fun place heq => by cases heq
  | content opened s n m w ih => exact hatom opened _ fun place heq => by cases heq
  | enter opened place inside new ih =>
    rw [Json.plainWithin.eq_def, Json.plainWithin.eq_def]
    simp only [Value.content?, dif_pos inside, dif_neg new, h.partsOf_eq, h.nameOf_eq σ, ih]
  | stop opened v hend =>
    cases v with
    | object place =>
      rw [Json.plainWithin.eq_def, Json.plainWithin.eq_def]
      by_cases inside : place < σ.size
      · simp only [Value.content?, dif_pos inside, dif_pos (hend inside), h.partsOf_eq]
      · simp only [Value.content?, dif_neg inside]
    | _ => exact hatom opened _ fun place heq => by cases heq

theorem document_eq : Json.document σ schema = Json.document σ schema' := by
  have hleaf : Json.leafText σ schema = Json.leafText σ schema' := by
    funext level v
    unfold Json.leafText Json.plain
    rw [h.plainWithin_eq σ]
  funext records
  unfold Json.document
  rw [hleaf, h.normalize_eq σ]

/-! ### Tables -/

theorem describe_names (t : TypeExpr) : (schema.describe t).map Field.name = (schema'.describe t).map Field.name := by
  unfold describe
  cases t.deref with
  | shape name => exact h.names name
  | _ => rfl

variable (layout : Layout) (records : List Value)

theorem firstKeys_eq : Layout.firstKeys σ schema records = Layout.firstKeys σ schema' records := by
  unfold Layout.firstKeys Layout.keyColumns
  rw [h.entries_eq σ, h.display_eq σ]

theorem suppliedHeaders_eq : layout.suppliedHeaders? σ schema records = layout.suppliedHeaders? σ schema' records := by
  unfold Layout.suppliedHeaders?
  rw [h.headers_eq]

theorem columns_names : (layout.columns σ schema records).map (·.map Field.name) =
    (layout.columns σ schema' records).map (·.map Field.name) := by
  unfold Layout.columns
  cases layout.fields with
  | some fields => rfl
  | none =>
    simp only
    cases layout.rowType σ records with
    | none => simp only [Option.map_none, Option.getD_none, h.firstKeys_eq σ]
    | some t =>
      have hnames := h.describe_names t
      simp only [Option.map_some, Option.getD_some]
      cases hfields : schema.describe t with
      | nil =>
        rw [hfields, List.map_nil, eq_comm, List.map_eq_nil_iff] at hnames
        rw [hnames]
        simp only [h.firstKeys_eq σ]
      | cons f fs =>
        rw [hfields] at hnames
        cases hfields' : schema'.describe t with
        | nil =>
          rw [hfields'] at hnames
          cases hnames
        | cons f' fs' =>
          rw [hfields'] at hnames
          simp only [Except.map, hnames]

/-- A row is made of the names of the columns. -/
theorem row_eq {fields fields' : List Field} (hnames : fields.map Field.name = fields'.map Field.name) :
    Layout.row σ schema fields = Layout.row σ schema' fields' := by
  have hcell : ∀ (schema : Schema) (r : Value) (fields : List Field), fields.mapM (Layout.cellOf σ schema r) =
      (fields.map Field.name).mapM fun name => Layout.cellOf σ schema r (.unlabelled name) := by
    intro schema r fields
    rw [List.mapM_map]
    rfl
  funext r
  unfold Layout.row
  rw [hcell, hcell, hnames]
  simp only [Layout.cellOf, h.field_eq σ]

theorem sameBelow_rows : SameBelow (layout.rows σ schema records) (layout.rows σ schema' records) := by
  unfold Layout.rows
  rw [← h.suppliedHeaders_eq]
  rcases layout.suppliedHeaders? σ schema records with _ | _ | headers
  · have hcolumns := h.columns_names σ layout records
    cases hfields : layout.columns σ schema records with
    | error e =>
      rw [hfields] at hcolumns
      rw [map_eq_error_iff.1 hcolumns.symm]
      exact .fault e
    | ok fields =>
      rw [hfields] at hcolumns
      obtain ⟨fields', hfields', hnames⟩ := map_eq_ok_iff.1 hcolumns.symm
      have hlength : fields.length = fields'.length := by
        have := congrArg List.length hnames
        simpa using this.symm
      rw [hfields']
      simp only [bind, Except.bind, h.row_eq σ hnames.symm]
      cases records.mapM (Layout.row σ schema' fields') with
      | error e => exact .fault e
      | ok rows =>
        have htable : SameBelow (.ok ((fields.map Field.header).map Value.text :: rows))
            (.ok ((fields'.map Field.header).map Value.text :: rows)) :=
          .table rows (by simp only [List.length_map, hlength])
        rw [List.map_map, List.map_map] at htable
        exact htable
  · exact .fault _
  · have hsupplied : Layout.suppliedRow σ schema = Layout.suppliedRow σ schema' := by
      funext r
      unfold Layout.suppliedRow
      rw [h.suppliedRow_eq σ]
    simp only [hsupplied]
    cases records.mapM (Layout.suppliedRow σ schema') with
    | error e => exact .fault e
    | ok rows => exact .table rows rfl

theorem line_eq : Csv.line σ schema = Csv.line σ schema' := by
  have htext : Csv.textOf σ schema = Csv.textOf σ schema' := by
    funext v
    unfold Csv.textOf
    rw [h.display_eq σ]
  funext row
  unfold Csv.line
  rw [htext]

end Schema.Alike

/-! ### Writing -/

namespace Formatter

variable {f : Formatter} {schema schema' : Schema} {σ : Store} {records : List Value}

/-- What is put into a sink that does not fail by itself does not depend on what has been put before. -/
theorem putChunks_behind (chunks : List (Except Fault Text)) : ∃ (ts : List Text) (fault : Option WriteFault),
    ∀ before, putChunks ⟨before, none, false⟩ chunks = (⟨before ++ ts, none, false⟩, fault) := by
  induction chunks with
  | nil => exact ⟨[], none, fun before => by rw [List.append_nil]; rfl⟩
  | cons chunk chunks ih =>
    cases chunk with
    | error e => exact ⟨[], some (.record e), fun before => by rw [List.append_nil]; rfl⟩
    | ok t =>
      obtain ⟨ts, fault, hrest⟩ := ih
      refine ⟨t :: ts, fault, fun before => ?_⟩
      have hput : Sink.put ⟨before, none, false⟩ t = .ok ⟨before ++ [t], none, false⟩ := rfl
      rw [putChunks, hput]
      simp only [hrest, List.append_assoc, List.singleton_append]

/-- Tables that are the same below their headers are written with the same chunks behind the first one, up to the same
fault. -/
theorem write_sameBelow (hf : f.format? = some .csv) (hlines : Csv.line σ schema = Csv.line σ schema')
    (h : SameBelow (f.layout.rows σ schema records) (f.layout.rows σ schema' records)) :
    (∃ e, f.write σ schema records .unlimited = (.unlimited, some (.record e)) ∧
      f.write σ schema' records .unlimited = (.unlimited, some (.record e))) ∨
    ∃ header header' rest fault, f.write σ schema records .unlimited = (⟨header :: rest, none, false⟩, fault) ∧
      f.write σ schema' records .unlimited = (⟨header' :: rest, none, false⟩, fault) := by
  simp only [write, chunks, hf, chunksIn]
  generalize f.layout.rows σ schema records = table at h
  generalize f.layout.rows σ schema' records = table' at h
  cases h with
  | fault e => exact .inl ⟨e, rfl, rfl⟩
  | @table header header' rows hlength =>
    obtain ⟨ts, fault, hrest⟩ := putChunks_behind (rows.map (Csv.line σ schema))
    have hput : ∀ (schema : Schema) (header : List Text),
        putChunks .unlimited ((header.map Value.text :: rows).map (Csv.line σ schema)) =
          putChunks ⟨[Csv.textLine (header.map Value.text)], none, false⟩ (rows.map (Csv.line σ schema)) := by
      intro schema header
      rw [List.map_cons, Csv.line_of_texts fun v hv => Layout.isText_of_mem_map hv]
      rfl
    refine .inr ⟨Csv.textLine (header.map Value.text), Csv.textLine (header'.map Value.text), ts, fault, ?_, ?_⟩
    · exact (hput schema header).trans (hrest _)
    · exact (hput schema' header').trans (hlines ▸ hrest _)

/-- Declarations that differ in nothing but labels, where no alternatives become one attribute of a shape when their
labels are the same. The described fields have the same names in the same order; JSON documents, and what keeps
records from being written as one, are the same; and tables are the same but for their headers, up to the same fault. -/
theorem write_labels {ds ds' : List ShapeDecl} (hlabels : ds.map ShapeDecl.blank = ds'.map ShapeDecl.blank)
    (hapart : (Schema.ofDecls ds).ClassVarsApart) (f : Formatter) (σ : Store) (records : List Value) :
    (∀ t, ((Schema.ofDecls ds).describe t).map Field.name = ((Schema.ofDecls ds').describe t).map Field.name) ∧
    (f.format? = some .json → ∀ sink, f.write σ (.ofDecls ds) records sink = f.write σ (.ofDecls ds') records sink) ∧
    (f.format? = some .csv →
      (∃ e, f.write σ (.ofDecls ds) records .unlimited = (.unlimited, some (.record e)) ∧
        f.write σ (.ofDecls ds') records .unlimited = (.unlimited, some (.record e))) ∨
      ∃ header header' rest fault, f.write σ (.ofDecls ds) records .unlimited = (⟨header :: rest, none, false⟩, fault) ∧
        f.write σ (.ofDecls ds') records .unlimited = (⟨header' :: rest, none, false⟩, fault)) := by
  have hblank : (Schema.ofDecls ds).blank = (Schema.ofDecls ds').blank := by
    rw [← Schema.ofDecls_blank, ← Schema.ofDecls_blank, hlabels]
  have halike : (Schema.ofDecls ds).Alike (Schema.ofDecls ds') := Schema.alike_of_blank_eq hblank hapart
  refine ⟨halike.describe_names, fun hf sink => ?_, fun hf => ?_⟩
  · simp only [write, chunks, hf, chunksIn, halike.document_eq σ]
  · exact write_sameBelow hf (halike.line_eq σ) (halike.sameBelow_rows σ f.layout records)

/-- A class with one annotated attribute, shown under the given label. -/
def labelledDecl (label : Text) : ShapeDecl :=
  ⟨"Price", .plain, [], [⟨"amount", .annotated (.builtin "int") [.column label], none, none⟩], [], false, none, []⟩

def price : Store := #[.instance ⟨"Price", [("amount", .int 5)], [], [], [], .ok .null⟩]

theorem write_labels_price :
    [labelledDecl "Amount"].map ShapeDecl.blank = [labelledDecl "EUR"].map ShapeDecl.blank ∧
    (Schema.ofDecls [labelledDecl "Amount"]).ClassVarsApart ∧
    (⟨some "csv", none, none⟩ : Formatter).write price (.ofDecls [labelledDecl "Amount"]) [.object 0] .unlimited =
      (⟨["Amount\n", "5\n"], none, false⟩, none) ∧
    ∃ header, (⟨some "csv", none, none⟩ : Formatter).write price (.ofDecls [labelledDecl "EUR"]) [.object 0] .unlimited =
      (⟨[header, "5\n"], none, false⟩, none) := by
  have hlabels : [labelledDecl "Amount"].map ShapeDecl.blank = [labelledDecl "EUR"].map ShapeDecl.blank := rfl
  have hapart : (Schema.ofDecls [labelledDecl "Amount"]).ClassVarsApart := by
    intro shape s hs _ _ _ a ha hunion
    have hname : shape = "Price" := by
      have := List.find?_some hs
      rw [List.mem_singleton.1 (List.mem_of_find?_eq_some hs)] at this
      exact (of_decide_eq_true this).symm
    subst hname
    have hhints : (Schema.ofDecls [labelledDecl "Amount"]).writtenHints "Price" =
        ([("amount", true, .annotated (.builtin "int") [.column "Amount"])] : List (Text × Bool × TypeExpr)) := rfl
    rw [hhints, List.mem_singleton] at ha
    rw [ha] at hunion
    cases hunion
  have hwritten : (⟨some "csv", none, none⟩ : Formatter).write price (.ofDecls [labelledDecl "Amount"]) [.object 0]
      .unlimited = (⟨["Amount\n", "5\n"], none, false⟩, none) := rfl
  refine ⟨hlabels, hapart, hwritten, ?_⟩
  obtain ⟨-, -, hcsv⟩ := write_labels hlabels hapart ⟨some "csv", none, none⟩ price [.object 0]
  rcases hcsv (by decide) with ⟨e, hfault, -⟩ | ⟨header, header', rest, fault, hleft, hright⟩
  · rw [hwritten] at hfault
    cases hfault
  · rw [hwritten] at hleft
    cases hleft
    exact ⟨header', hright⟩

end Formatter

/-- A class with one annotated attribute, either of two class variables with a label each. -/
def twiceDecl (label label' : Text) : ShapeDecl :=
  let classVar (label : Text) : TypeExpr := .annotated (.qualified .classVar (.builtin "int")) [.column label]
  ⟨"Twice", .plain, [], [⟨"x", .either (.quoted (classVar label)) (classVar label'), none, none⟩], [], false, none, []⟩

/-- If both have one label, they are one class variable, which is no field; if not, they are alternatives, which are a
field. -/
theorem Schema.names_of_classVars :
    [twiceDecl "a" "a"].map ShapeDecl.blank = [twiceDecl "a" "b"].map ShapeDecl.blank ∧
    ((ofDecls [twiceDecl "a" "a"]).describe (.shape "Twice")).map Field.name = [] ∧
    ((ofDecls [twiceDecl "a" "b"]).describe (.shape "Twice")).map Field.name = ["x"] := by
  refine ⟨rfl, ?_, ?_⟩
  · decide
  · decide

end RecordPrint
