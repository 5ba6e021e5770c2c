import RecordPrint.Command.Render
import RecordPrint.Proofs.Command.Actions
import RecordPrint.Proofs.Document.Encoding
import RecordPrint.Proofs.Json.Faults
import RecordPrint.Proofs.Json.Limits
import RecordPrint.Proofs.Record.Loaded
import RecordPrint.Proofs.Text.Utf8

/-!
# How renderings end

* `run_outcome` — what a rendering comes to, by its columns, its input and the delivery of the document;
* `deliver_fault` — whatever keeps a document of loaded records from its destination is a failure of the command;
* `run_crash_iff` — a rendering of a text ends in no other way than as done or as a failure, but for one: an integer
  with too many digits in the input.
-/

namespace RecordPrint

namespace Rendering

variable {r : Rendering} {s : Session} {t : Text}

theorem quiet_prepare (r : Rendering) : r.prepare.Quiet := by
  unfold prepare
  refine (Action.quiet_ofResult _).bind fun _ => ?_
  refine (Action.quiet_log _).bind fun _ => ?_
  refine Action.quiet_get.bind fun _ => ?_
  refine (Action.quiet_ofResult _).bind fun _ => ?_
  refine (Action.quiet_ofResult _).bind fun _ => ?_
  exact (Action.quiet_log _).bind fun _ => Action.quiet_pure _

theorem outcome_prepare (r : Rendering) (s : Session) : r.prepare.outcome s =
    ((Field.ofOptions r.columns).mapError Stop.failure).bind fun fields =>
      (textOf s r.source).bind fun t =>
        (recordsOf r.source t).map fun records => (⟨some r.selector, ⟨some recordType, fields⟩⟩, records) := by
  unfold prepare
  simp only [Action.outcome_bind, Action.outcome_ofResult, Action.after_ofResult]
  cases (Field.ofOptions r.columns).mapError Stop.failure with
  | error e => rfl
  | ok fields =>
    obtain ⟨errors, herrors⟩ := Action.quiet_log (Message.ofColumns fields) s
    have htext : textOf ((Action.log (Message.ofColumns fields)).after s) r.source = textOf s r.source := by
      rw [herrors]
      rfl
    show ((textOf ((Action.log (Message.ofColumns fields)).after s) r.source).bind _) = _
    rw [htext]
    cases textOf s r.source with
    | error e => rfl
    | ok t =>
      show (recordsOf r.source t).bind _ = (recordsOf r.source t).map _
      cases recordsOf r.source t <;> rfl

theorem outcome_deliver (f : Formatter) (σ : Store) (schema : Schema) (records : List Value) (destination : Text) :
    (deliver f σ schema records destination).outcome s =
      match (Destination.deliver destination s.directory s.output (f.write σ schema records)).fault with
      | none => .ok ()
      | some fault => .error (fault.toStop (targetName destination)) := by
  have hget : (get : Action Session).outcome s = .ok s := rfl
  rw [deliver, Action.outcome_bind, hget]
  show Action.outcome (_ >>= _) s = _
  rcases Destination.deliver destination s.directory s.output (f.write σ schema records) with
    ⟨directory, output, opened, closed, fault⟩
  rcases opened with _ | _ <;> rcases fault with _ | (fault | fault) <;> rfl

/-- The formatter of a rendering. -/
def formatter (r : Rendering) (fields : Option (List Field)) : Formatter :=
  ⟨some r.selector, ⟨some recordType, fields⟩⟩

/-- What keeps the document of some records from its destination. -/
def deliveryFault? (r : Rendering) (s : Session) (fields : Option (List Field)) (os : List JsonRecord) :
    Option DeliveryFault :=
  (Destination.deliver r.destination s.directory s.output
    ((r.formatter fields).write (Store.ofRecords os).2 [] (Store.ofRecords os).1)).fault

/-- What a rendering comes to, by its columns, its input and the delivery of the document. -/
theorem run_outcome (ht : textOf s r.source = .ok t) : r.run.outcome s =
    match Field.ofOptions r.columns with
    | .error f => .error (.failure f)
    | .ok fields =>
      match Json.readRecords t with
      | .error f => .error (f.toStop r.source)
      | .ok os =>
        match r.deliveryFault? s fields os with
        | none => .ok ()
        | some fault => .error (fault.toStop (targetName r.destination)) := by
  obtain ⟨errors, hprepared⟩ := quiet_prepare r s
  have hprepare : r.prepare.outcome s =
      ((Field.ofOptions r.columns).mapError Stop.failure).bind fun fields =>
        (recordsOf r.source t).map fun records => (⟨some r.selector, ⟨some recordType, fields⟩⟩, records) := by
    rw [outcome_prepare, ht]
    rfl
  rw [run, Action.outcome_bind, hprepare, hprepared]
  cases Field.ofOptions r.columns with
  | error f => rfl
  | ok fields =>
    unfold recordsOf
    cases Json.readRecords t with
    | error f => rfl
    | ok os =>
      let messages := Message.ofSelector r.selector ++ Message.ofNothing r.selector
      obtain ⟨more, hlogged⟩ := Action.quiet_log messages { s with errors := errors }
      show (deliver (r.formatter fields) (Store.ofRecords os).2 [] (Store.ofRecords os).1 r.destination).outcome
        ((Action.log messages).after { s with errors := errors }) = _
      rw [outcome_deliver, hlogged]
      rfl

/-! ### Faults -/

theorem suppliesTexts_formatter (fields : Option (List Field)) (σ : Store) (records : List Value) :
    (r.formatter fields).SuppliesTexts σ [] records := by
  intro _ hsupplied
  cases fields <;> cases hsupplied

/-- Loaded records are encoded, unless a value among them has no JSON form. -/
theorem encoded_fault {fields : Option (List Field)} {os : List JsonRecord} {e : Fault}
    (h : (r.formatter fields).encoded (Store.ofRecords os).2 [] (Store.ofRecords os).1 = .error e) :
    e.isValueFault = true := by
  unfold Formatter.encoded at h
  split at h
  · cases h
  · rcases Json.document_fault (map_eq_error_iff.1 h) with hvalue | ⟨v, hv, hnormal⟩
    · exact hvalue
    · obtain ⟨o, ho⟩ := Value.denotes_of_mem_ofRecords hv
      rw [ho.normalize_fault hnormal]
      rfl
  · have hrows : (r.formatter fields).layout.rows (Store.ofRecords os).2 [] (Store.ofRecords os).1 =
        .ok ((Layout.tableOf (Layout.columnsFor fields os) os).map Csv.valuesOf) :=
      Layout.rows_of_denotes (Store.denotes_ofRecords os)
    rw [hrows] at h
    cases h

end Rendering

/-- A document that fails by its records fails so wherever it is written to. -/
theorem Destination.exists_of_record_fault {name : Option Text} {directory : Directory} {output : Sink}
    {writer : Sink → Sink × Option WriteFault} {e : Fault}
    (h : (deliver name directory output writer).fault = some (.writing (.record e))) :
    ∃ sink, (writer sink).2 = some (.record e) := by
  have hwritten : ∀ {fault : Option WriteFault}, fault.map DeliveryFault.writing = some (.writing (.record e)) →
      fault = some (.record e) := by
    intro fault hfault
    obtain ⟨f, hf, heq⟩ := Option.map_eq_some_iff.1 hfault
    cases heq
    exact hf
  unfold deliver at h
  split at h
  · exact ⟨output, hwritten h⟩
  · split at h
    · cases h
    · rename_i device _
      -- what closing a device refuses is no fault of a record
      have hdevice := hwritten h
      rcases hclosing : closingFault? device (writer .ofBytes).1 with _ | fault
      · rw [hclosing, Option.none_or] at hdevice
        exact ⟨.ofBytes, hdevice⟩
      · rw [hclosing, Option.some_or] at hdevice
        cases hdevice
        unfold closingFault? at hclosing
        split at hclosing
        · cases hclosing
        · split at hclosing <;> cases hclosing
    · exact ⟨.ofBytes, hwritten h⟩

theorem SystemFault.exitCode_toFailure (f : SystemFault) (action : Text) :
    (f.toFailure action).kind.exitCode ∈ [66, 74, 77] := by
  unfold toFailure
  by_cases hentry : f.isNoEntry
  · simp [hentry, FailureKind.exitCode]
  · by_cases hdenied : f.isDenied <;> simp [hentry, hdenied, FailureKind.exitCode]

/-- What keeps a document from its destination is a failure, unless a record is at fault otherwise than by its
values. -/
theorem DeliveryFault.toStop_failure {fault : DeliveryFault} (target : Text)
    (h : ∀ e, fault = .writing (.record e) → e.isValueFault = true) :
    ∃ f, fault.toStop target = .failure f ∧ f.kind.exitCode ∈ [65, 66, 74, 77] := by
  have hsystem : ∀ f : SystemFault,
      (f.toFailure ("cannot write " ++ target)).kind.exitCode ∈ [65, 66, 74, 77] :=
    fun f => List.mem_cons_of_mem _ (f.exitCode_toFailure _)
  rcases fault with (f | _) | ⟨e | (f | f)⟩
  · exact ⟨_, rfl, hsystem f⟩
  · exact ⟨_, rfl, List.mem_cons_self⟩
  · have hvalue : toStop (.writing (.record e)) target = encodingFailure e.message := if_pos (h e rfl)
    exact ⟨_, hvalue, List.mem_cons_self⟩
  · exact ⟨_, rfl, hsystem f⟩
  · exact ⟨_, rfl, List.mem_cons_self⟩

theorem Field.ofOptions_fault {specs : List Text} {f : Failure} (h : ofOptions specs = .error f) :
    f.kind = .usage := by
  obtain ⟨spec, -, hspec⟩ := exists_of_mapM_eq_error (map_eq_error_iff.1 h)
  unfold ofOption at hspec
  dsimp only at hspec
  split at hspec
  · cases hspec
    rfl
  · cases hspec

/-- What is the matter with an input is a failure, unless it is the number of digits of an integer. -/
theorem InputFault.toStop_failure {fault : InputFault} (source : Text)
    (h : ∀ line n, fault ≠ .json line (.tooLong n)) :
    fault.toStop source = .failure ⟨.encoding, "invalid input " ++ source ++ ": " ++ fault.message⟩ := by
  rcases fault with ⟨line, ⟨problem, offset⟩ | n⟩ | ⟨index, type⟩
  · rfl
  · exact absurd rfl (h line n)
  · rfl

namespace Rendering

variable {r : Rendering} {s : Session} {t : Text}

/-- Whatever keeps a document of loaded records from its destination is a failure of the command. -/
theorem deliver_fault {fields : Option (List Field)} {os : List JsonRecord} {fault : DeliveryFault}
    (h : r.deliveryFault? s fields os = some fault) :
    ∃ f, fault.toStop (targetName r.destination) = .failure f ∧ f.kind.exitCode ∈ [65, 66, 74, 77] := by
  refine fault.toStop_failure _ ?_
  rintro e rfl
  obtain ⟨sink, hsink⟩ := Destination.exists_of_record_fault h
  rw [Formatter.write_eq (suppliesTexts_formatter fields _ _)] at hsink
  cases hencoded : (r.formatter fields).encoded (Store.ofRecords os).2 [] (Store.ofRecords os).1 with
  | error e' =>
    rw [hencoded] at hsink
    cases hsink
    exact encoded_fault hencoded
  | ok ts =>
    rw [hencoded] at hsink
    obtain ⟨f, -, hf⟩ := Option.map_eq_some_iff.1 hsink
    cases hf

theorem run_of_columns (ht : textOf s r.source = .ok t) {f : Failure} (hfields : Field.ofOptions r.columns = .error f) :
    r.run.outcome s = .error (.failure f) ∧ f.kind.exitCode = 64 := by
  rw [run_outcome ht, hfields, Field.ofOptions_fault hfields]
  exact ⟨rfl, rfl⟩

/-- Records that have been read are written, or the command fails. -/
theorem run_of_records (ht : textOf s r.source = .ok t) {fields : Option (List Field)} {os : List JsonRecord}
    (hfields : Field.ofOptions r.columns = .ok fields) (hread : Json.readRecords t = .ok os) :
    r.run.outcome s = .ok () ∨
      ∃ f, r.run.outcome s = .error (.failure f) ∧ f.kind.exitCode ∈ [65, 66, 74, 77] := by
  simp only [run_outcome ht, hfields, hread]
  cases hdeliver : r.deliveryFault? s fields os with
  | none => exact .inl rfl
  | some fault =>
    obtain ⟨f, hf, hcode⟩ := deliver_fault hdeliver
    exact .inr ⟨f, congrArg _ hf, hcode⟩

/-- A text that holds no records is a failure of encoding, unless it is refused for a number of digits. -/
theorem run_of_fault (ht : textOf s r.source = .ok t) {fields : Option (List Field)} {fault : InputFault}
    (hfields : Field.ofOptions r.columns = .ok fields) (hread : Json.readRecords t = .error fault)
    (hshort : ∀ line n, fault ≠ .json line (.tooLong n)) :
    ∃ f, r.run.outcome s = .error (.failure f) ∧ f.kind.exitCode = 65 := by
  simp only [run_outcome ht, hfields, hread, fault.toStop_failure r.source hshort]
  exact ⟨_, rfl, rfl⟩

/-- A rendering ends otherwise than as done or as a failure only where the number of digits of an integer is refused. -/
theorem outcome_eq_crash_iff (ht : textOf s r.source = .ok t) (c : Crash) :
    r.run.outcome s = .error (.crash c) ↔
      (∃ fields, Field.ofOptions r.columns = .ok fields) ∧
        ∃ line n, Json.readRecords t = .error (.json line (.tooLong n)) ∧ c = .integer n := by
  constructor
  · intro hcrash
    have hother : ∀ f, r.run.outcome s ≠ .error (.failure f) := by
      intro f hfailure
      rw [hfailure] at hcrash
      cases hcrash
    cases hfields : Field.ofOptions r.columns with
    | error f => exact absurd (run_of_columns ht hfields).1 (hother f)
    | ok fields =>
      refine ⟨⟨fields, rfl⟩, ?_⟩
      cases hread : Json.readRecords t with
      | ok os =>
        rcases run_of_records ht hfields hread with hdone | ⟨f, hfailure, -⟩
        · rw [hdone] at hcrash
          cases hcrash
        · exact absurd hfailure (hother f)
      | error fault =>
        -- of the faults of an input this is the only one that is not among the failures
        by_cases hlong : ∃ line n, fault = .json line (.tooLong n)
        · obtain ⟨line, n, rfl⟩ := hlong
          rw [run_outcome ht, hfields, hread] at hcrash
          cases hcrash
          exact ⟨line, n, rfl, rfl⟩
        · obtain ⟨f, hfailure, -⟩ := run_of_fault ht hfields hread fun line n h => hlong ⟨line, n, h⟩
          exact absurd hfailure (hother f)
  · rintro ⟨⟨fields, hfields⟩, line, n, hread, rfl⟩
    simp only [run_outcome ht, hfields, hread]
    rfl

/-- A rendering of a text that can be decoded ends as done or as a failure with an exit code of its own, but for one
case: the columns are well-formed and the text is refused as records because of an integer with too many digits, which
is not among the failures. Any other text that does not hold records is a failure of encoding. -/
theorem run_crash_iff (ht : textOf s r.source = .ok t) :
    (∀ c, r.run.outcome s = .error (.crash c) ↔
      (∃ fields, Field.ofOptions r.columns = .ok fields) ∧
        ∃ line n, Json.readRecords t = .error (.json line (.tooLong n)) ∧ c = .integer n) ∧
    (∀ line n, Json.readRecords t = .error (.json line (.tooLong n)) → Json.LongDigits n t) ∧
    (∀ f, Field.ofOptions r.columns = .error f →
      r.run.outcome s = .error (.failure f) ∧ f.kind.exitCode = 64) ∧
    (∀ fields fault, Field.ofOptions r.columns = .ok fields → Json.readRecords t = .error fault →
      (∀ line n, fault ≠ .json line (.tooLong n)) →
        ∃ f, r.run.outcome s = .error (.failure f) ∧ f.kind.exitCode = 65) ∧
    (∀ fields os, Field.ofOptions r.columns = .ok fields → Json.readRecords t = .ok os →
      r.run.outcome s = .ok () ∨
        ∃ f, r.run.outcome s = .error (.failure f) ∧ f.kind.exitCode ∈ [65, 66, 74, 77]) :=
  ⟨outcome_eq_crash_iff ht, fun _ _ => Json.readRecords_tooLong, fun _ => run_of_columns ht,
    fun _ _ => run_of_fault ht, fun _ _ => run_of_records ht⟩

end Rendering

/-! ### A rendering that ends otherwise -/

namespace Rendering

/-- The rendering of standard input as a table. -/
def standardTable : Rendering := ⟨standardInput, "csv", [], []⟩

/-- A session whose standard input is an object that holds an integer of `n` digits. -/
def longSession (n : Nat) : Session :=
  ⟨[], Utf8.encodeChars (Json.longEntry n), none, [], Level.warning, .ofBytes, []⟩

theorem textOf_longSession (n : Nat) : textOf (longSession n) standardInput = .ok (Json.longEntry n) := by
  have hmem : ∀ c ∈ Json.longEntry n, (∃ char, c = .char char) ∧ c ≠ .char '\r' := by
    intro c hc
    simp only [Json.longEntry, List.mem_cons, List.mem_append, List.mem_replicate, List.not_mem_nil, or_false] at hc
    rcases hc with rfl | rfl | rfl | rfl | rfl | ⟨-, rfl⟩ | rfl <;> exact ⟨⟨_, rfl⟩, by decide⟩
  have hdecode : Utf8.decode (longSession n).input = .ok (Json.longEntry n) :=
    Utf8.decodeFrom_encodeChars (fun c hc => (hmem c hc).1) 0
  have hbytes : bytesOf (longSession n) standardInput = .ok (longSession n).input := if_pos rfl
  have hreturn : Text.unifyLineEnds (Json.longEntry n) = Json.longEntry n :=
    Text.unifyLineEnds_eq fun h => (hmem _ h).2 rfl
  rw [textOf, hbytes]
  show ((Utf8.decode (longSession n).input).mapError _).bind _ = _
  rw [hdecode]
  exact congrArg Except.ok hreturn

/-- An object that holds an integer of 4301 digits ends a rendering without a failure of the command. -/
theorem run_crash_longEntry :
    textOf (longSession 4301) standardTable.source = .ok (Json.longEntry 4301) ∧
      standardTable.run.outcome (longSession 4301) = .error (.crash (.integer 4301)) := by
  have htext : textOf (longSession 4301) standardTable.source = .ok (Json.longEntry 4301) := textOf_longSession 4301
  obtain ⟨hcrash, -⟩ := run_crash_iff htext
  refine ⟨htext, (hcrash (.integer 4301)).2 ⟨⟨none, rfl⟩, Json.longEntry 4301, 4301, ?_, rfl⟩⟩
  exact Json.readRecords_longEntry (by decide)

end Rendering

end RecordPrint
