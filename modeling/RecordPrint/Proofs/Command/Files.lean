import RecordPrint.Proofs.Command.Rendering
import RecordPrint.Proofs.Document.Deliveries

/-!
# What renderings do to files

* `prepare_stops_iff` — a rendering stops before its destination is opened exactly if a column is rejected, or if the
  input cannot be read or holds no records;
* `after_run_of_stop`, `run_of_prepare` — it leaves all files as they are then, and otherwise as the delivery of
  the document leaves them;
* `run_files` — so a rendering whose destination is its own source replaces the records of the file by their document.
-/

namespace RecordPrint

/-- A file is written to by a path that leads to it, unless the path asks for something else than a file. -/
theorem Directory.writeTarget_of_file {d : Directory} {path : Text} {place : Place} {content : List UInt8} {mode : Nat}
    (hwalk : d.walk path = .ok place) (hentry : d.entry? place = some (.file content mode)) :
    d.writeTarget path = .ok (.file place) ∨ ∃ f, d.writeTarget path = .error f := by
  rw [writeTarget, hwalk]
  simp only [bind, Except.bind, hentry]
  split
  · exact .inr ⟨_, rfl⟩
  · split
    · exact .inr ⟨_, rfl⟩
    · exact .inl rfl

namespace Rendering

variable {r : Rendering} {s : Session} {t : Text} {fields : Option (List Field)} {os : List JsonRecord}

/-! ### Before the destination is opened -/

/-- One of the columns is rejected, or the input cannot be read, or it holds no records. -/
def IsRefused (r : Rendering) (s : Session) : Prop :=
  (∃ spec ∈ r.columns, ∃ f, Field.ofOption spec = .error f) ∨
    (∃ stop, textOf s r.source = .error stop) ∨
    ∃ t fault, textOf s r.source = .ok t ∧ Json.readRecords t = .error fault

theorem exists_ofOptions_eq_error_iff {specs : List Text} :
    (∃ f, Field.ofOptions specs = .error f) ↔ ∃ spec ∈ specs, ∃ f, Field.ofOption spec = .error f := by
  simp only [Field.ofOptions, map_eq_error_iff, exists_mapM_eq_error_iff]

/-- Unless it is refused, what is rendered has been read as a whole. -/
theorem outcome_prepare_cases (r : Rendering) (s : Session) :
    (∃ stop, r.prepare.outcome s = .error stop ∧ r.IsRefused s) ∨
      ∃ fields t os, Field.ofOptions r.columns = .ok fields ∧ textOf s r.source = .ok t ∧
        Json.readRecords t = .ok os ∧ r.prepare.outcome s = .ok (r.formatter fields, os) := by
  rw [outcome_prepare]
  cases hfields : Field.ofOptions r.columns with
  | error f => exact .inl ⟨.failure f, rfl, .inl (exists_ofOptions_eq_error_iff.1 ⟨f, hfields⟩)⟩
  | ok fields =>
    cases htext : textOf s r.source with
    | error stop => exact .inl ⟨stop, rfl, .inr (.inl ⟨stop, htext⟩)⟩
    | ok t =>
      cases hread : Json.readRecords t with
      | error fault =>
        refine .inl ⟨fault.toStop r.source, ?_, .inr (.inr ⟨t, fault, htext, hread⟩)⟩
        show (recordsOf r.source t).map _ = _
        rw [recordsOf, hread]
        rfl
      | ok os =>
        refine .inr ⟨fields, t, os, rfl, rfl, hread, ?_⟩
        show (recordsOf r.source t).map _ = _
        rw [recordsOf, hread]
        rfl

theorem not_isRefused (hfields : Field.ofOptions r.columns = .ok fields) (ht : textOf s r.source = .ok t)
    (hread : Json.readRecords t = .ok os) : ¬ r.IsRefused s := by
  rintro (hcolumn | ⟨stop, hstop⟩ | ⟨u, fault, hu, hfault⟩)
  · obtain ⟨f, hf⟩ := exists_ofOptions_eq_error_iff.2 hcolumn
    cases hfields.symm.trans hf
  · cases ht.symm.trans hstop
  · cases ht.symm.trans hu
    cases hread.symm.trans hfault

theorem prepare_stops_iff : (∃ stop, r.prepare.outcome s = .error stop) ↔ r.IsRefused s := by
  rcases outcome_prepare_cases r s with ⟨stop, hstop, hrefused⟩ | ⟨fields, t, os, hfields, ht, hread, hprepare⟩
  · exact ⟨fun _ => hrefused, fun _ => ⟨stop, hstop⟩⟩
  · constructor
    · rintro ⟨stop, hstop⟩
      cases hprepare.symm.trans hstop
    · intro hrefused
      exact absurd hrefused (not_isRefused hfields ht hread)

/-- A rendering that is refused changes nothing but what stands on standard error. -/
theorem after_run_of_stop {stop : Stop} (h : r.prepare.outcome s = .error stop) :
    r.run.outcome s = .error stop ∧ ∃ errors, r.run.after s = { s with errors := errors } := by
  rw [run, Action.outcome_bind, Action.after_bind, h]
  exact ⟨rfl, quiet_prepare r s⟩

/-! ### After the destination is opened -/

/-- What the delivery of the document of some records comes to. -/
def delivery (r : Rendering) (s : Session) (fields : Option (List Field)) (os : List JsonRecord) : Delivery :=
  Destination.deliver r.destination s.directory s.output
    ((r.formatter fields).write (Store.ofRecords os).2 [] (Store.ofRecords os).1)

/-- What follows the writing of a document changes nothing but what stands on standard error. -/
theorem quiet_closing (f : Formatter) (σ : Store) (schema : Schema) (records : List Value) (destination : Text)
    (g : Option WriteFault) : Action.Quiet (do
      Action.log (Message.ofStart f schema records.length)
      Action.log (writtenMessages f σ schema records)
      match g.map DeliveryFault.writing with
      | some fault => throw (fault.toStop (targetName destination))
      | none => return) := by
  refine (Action.quiet_log _).bind fun _ => (Action.quiet_log _).bind fun _ => ?_
  cases g with
  | none => exact Action.quiet_pure ()
  | some fault => exact Action.quiet_throw _

/-- A delivery leaves the files and standard output as the destination has them. -/
theorem after_deliver (f : Formatter) (σ : Store) (schema : Schema) (records : List Value) (destination : Text)
    (s : Session) : ∃ errors, (deliver f σ schema records destination).after s =
      let d := Destination.deliver destination s.directory s.output (f.write σ schema records)
      { s with directory := d.directory, output := d.output, errors := errors } := by
  have hclosing := quiet_closing f σ schema records destination
  have hlog : (Action.log (Message.ofOpened destination)).Quiet := Action.quiet_log _
  unfold deliver
  rw [Action.after_bind]
  show ∃ errors, Action.after (_ >>= _) s = _
  generalize Destination.deliver destination s.directory s.output (f.write σ schema records) = d
  rcases d with ⟨directory, output, _ | _, closed, _ | fault | fault⟩
  · exact hclosing none { s with directory := directory, output := output }
  · exact Action.quiet_throw (α := Unit) _ { s with directory := directory, output := output }
  · exact hclosing (some fault) { s with directory := directory, output := output }
  · exact (hlog.bind fun _ => hclosing none) { s with directory := directory, output := output }
  · exact (hlog.bind fun _ => Action.quiet_throw (α := Unit) _) { s with directory := directory, output := output }
  · exact (hlog.bind fun _ => hclosing (some fault)) { s with directory := directory, output := output }

/-- A rendering of records that have been read leaves the files as the delivery of their document does. -/
theorem run_of_prepare (h : r.prepare.outcome s = .ok (r.formatter fields, os)) :
    (∃ errors, r.run.after s =
      { s with directory := (r.delivery s fields os).directory, output := (r.delivery s fields os).output,
               errors := errors }) ∧
    r.run.outcome s =
      match (r.delivery s fields os).fault with
      | none => .ok ()
      | some fault => .error (fault.toStop (targetName r.destination)) := by
  obtain ⟨errors, hprepared⟩ := quiet_prepare r s
  obtain ⟨more, hlogged⟩ := Action.quiet_log (Message.ofSelector r.selector ++ Message.ofNothing r.selector)
    { s with errors := errors }
  obtain ⟨last, hdelivered⟩ := after_deliver (r.formatter fields) (Store.ofRecords os).2 [] (Store.ofRecords os).1
    r.destination { s with errors := more }
  have hrest : (r.run.outcome s, r.run.after s) =
      (let a := deliver (r.formatter fields) (Store.ofRecords os).2 [] (Store.ofRecords os).1 r.destination
       (a.outcome { s with errors := more }, a.after { s with errors := more })) := by
    rw [run, Action.outcome_bind, Action.after_bind, h, hprepared, ← hlogged]
    rfl
  obtain ⟨houtcome, hafter⟩ := Prod.ext_iff.1 hrest
  refine ⟨⟨last, hafter.trans hdelivered⟩, ?_⟩
  exact houtcome.trans (outcome_deliver _ _ _ _ _)

/-! ### A source that is also the destination -/

/-- The source and the destination of a rendering are the same file. -/
structure Overwrites (r : Rendering) (s : Session) (place : Place) (content : List UInt8) (mode : Nat) : Prop where
  named : r.source ≠ standardInput ∧ r.destination ≠ []
  read : s.directory.walk (Path.ofSlashes r.source).text = .ok place
  written : s.directory.walk r.destination = .ok place
  entry : s.directory.entry? place = some (.file content mode)

variable {place : Place} {content : List UInt8} {mode : Nat}

/-- The text of the source is the one that the file holds. -/
theorem Overwrites.textOf_eq (h : r.Overwrites s place content mode) (ht : textOf s r.source = .ok t) :
    ∃ u, Utf8.decode content = .ok u ∧ t = u.unifyLineEnds := by
  have hread : s.directory.read (Path.ofSlashes r.source).text = .ok content := by
    rw [Directory.read, h.read]
    simp only [bind, Except.bind, h.entry]
    rfl
  have hbytes : bytesOf s r.source = .ok content := by
    rw [bytesOf, if_neg h.named.1, hread]
    rfl
  rw [textOf, hbytes] at ht
  obtain ⟨u, hu, hreturn⟩ := bind_eq_ok_iff.1 (show ((Utf8.decode content).mapError _).bind _ = _ from ht)
  cases hdecode : Utf8.decode content with
  | error f =>
    rw [hdecode] at hu
    cases hu
  | ok v =>
    rw [hdecode] at hu
    cases hu
    cases hreturn
    exact ⟨_, rfl, rfl⟩

/-- The delivery of a document as a step of its own. -/
def deliveryStep (r : Rendering) (fields : Option (List Field)) (os : List JsonRecord) : DeliveryStep :=
  ⟨r.destination, .document (r.formatter fields) (Store.ofRecords os).1⟩

/-- A document that reaches the file that its records come from takes their place, and nothing else changes. -/
theorem Overwrites.delivery_eq (h : r.Overwrites s place content mode) (hdone : (r.delivery s fields os).fault = none) :
    ∃ ts, (r.formatter fields).IsDocument (Store.ofRecords os).2 [] (Store.ofRecords os).1 ts ∧
      Utf8.IsCharacters ts.flatten ∧
      (r.delivery s fields os).directory = s.directory.put place (Utf8.encodeChars ts.flatten) := by
  let found : Surroundings := ⟨s.directory, s.output⟩
  have hstep : r.delivery s fields os =
      Destination.step (Store.ofRecords os).2 [] (r.deliveryStep fields os) found := rfl
  have hname : ¬ Destination.isStandard (some r.destination) := by simpa [Destination.isStandard] using h.named.2
  have htarget : (r.deliveryStep fields os).target? found.directory = some (.file place) := by
    rw [DeliveryStep.target?, deliveryStep, if_neg hname, Option.getD_some]
    rcases Directory.writeTarget_of_file h.written h.entry with hfile | ⟨f, hf⟩
    · rw [hfile]
      rfl
    · have hopening : found.directory.writeTarget ((r.deliveryStep fields os).name.getD []) = .error f := hf
      rw [hstep, Destination.step_unopened (Store.ofRecords os).2 [] hname hopening] at hdone
      cases hdone
  obtain ⟨-, ts, fault, hwritten, hts, hfile⟩ := Destination.step_file (Store.ofRecords os).2 [] htarget
  rw [hstep, hfile] at hdone ⊢
  cases Option.map_eq_none_iff.1 hdone
  refine ⟨ts, ?_, hts, rfl⟩
  have htexts := suppliesTexts_formatter (r := r) fields (Store.ofRecords os).2 (Store.ofRecords os).1
  cases hwritten with
  | whole hchunks =>
    have hchunks : (r.formatter fields).chunks (Store.ofRecords os).2 [] (Store.ofRecords os).1 = .ok (ts.map .ok) :=
      hchunks
    rw [Formatter.chunks_eq htexts] at hchunks
    obtain ⟨us, hus, hmap⟩ := map_eq_ok_iff.1 hchunks
    cases List.map_injective_iff.2 (fun _ _ => Except.ok.inj) hmap
    exact Formatter.isDocument_of_encoded htexts hus

/-- A rendering that is refused, be it for one of its columns or for its input, stops and leaves all files as they are.
One whose destination is the file that it reads, and that is done, leaves there the document of the records that the
file has held before, and all other files as they are. -/
theorem run_files (r : Rendering) (s : Session) :
    (r.IsRefused s → (∃ stop, r.run.outcome s = .error stop) ∧ (r.run.after s).directory = s.directory) ∧
    (∀ place content mode, r.Overwrites s place content mode → r.run.outcome s = .ok () →
      ∃ t fields os ts, Utf8.decode content = .ok t ∧ Json.readRecords t.unifyLineEnds = .ok os ∧
        Field.ofOptions r.columns = .ok fields ∧
        (r.formatter fields).IsDocument (Store.ofRecords os).2 [] (Store.ofRecords os).1 ts ∧
        Utf8.decode (Utf8.encodeChars ts.flatten) = .ok ts.flatten ∧
        Directory.entry? (r.run.after s).directory place = some (.file (Utf8.encodeChars ts.flatten) mode) ∧
        ∀ other ≠ place, Directory.entry? (r.run.after s).directory other = s.directory.entry? other) := by
  constructor
  · intro hrefused
    obtain ⟨stop, hstop⟩ := prepare_stops_iff.2 hrefused
    obtain ⟨houtcome, errors, hafter⟩ := after_run_of_stop hstop
    refine ⟨⟨stop, houtcome⟩, ?_⟩
    rw [hafter]
  · intro place content mode h hdone
    rcases outcome_prepare_cases r s with ⟨stop, hstop, -⟩ | ⟨fields, t, os, hfields, ht, hread, hprepare⟩
    · rw [(after_run_of_stop hstop).1] at hdone
      cases hdone
    obtain ⟨⟨errors, hafter⟩, houtcome⟩ := run_of_prepare hprepare
    have hfault : (r.delivery s fields os).fault = none := by
      rw [houtcome] at hdone
      split at hdone
      · assumption
      · cases hdone
    obtain ⟨u, hu, rfl⟩ := h.textOf_eq ht
    obtain ⟨ts, hdocument, hts, hput⟩ := h.delivery_eq hfault
    have hwritable : s.directory.IsWritable place := .inr ⟨content, mode, h.entry⟩
    have hmode : s.directory.writtenMode place = mode := by rw [Directory.writtenMode, h.entry]
    refine ⟨u, fields, os, ts, hu, hread, hfields, hdocument, Utf8.decodeFrom_encodeChars hts 0, ?_, ?_⟩
    · rw [hafter, hput, Directory.entry_put hwritable, hmode]
    · intro other hne
      rw [hafter, hput, Directory.entry_put_of_ne hne]

/-- The rendering of a file as a table in its own place. -/
def ownTable (columns : List Text) : Rendering := ⟨"notes", "csv", "notes", columns⟩

/-- The bytes of a record. -/
def noteBytes : List UInt8 := Utf8.encodeChars "[\x7b\"a\": 1\x7d]"

/-- The text of the record as a table. -/
def noteTable : Text := "a\n1\n"

/-- A directory with one file. -/
def notesWith (content : List UInt8) : Directory := [(["notes"], .file content 0o644)]

/-- A session with a file that holds the record. -/
def noteSession : Session := ⟨notesWith noteBytes, [], none, [], Level.warning, .ofBytes, []⟩

theorem overwrites_notes : (ownTable []).Overwrites noteSession ["notes"] noteBytes 0o644 where
  named := by decide
  read := by decide +kernel
  written := by decide +kernel
  entry := by decide +kernel

/-- A column without a name leaves the file as it is; without columns the file holds a table afterwards. -/
theorem run_files_notes :
    ((ownTable [""]).run.after noteSession).directory = notesWith noteBytes ∧
      ((ownTable []).run.after noteSession).directory = notesWith (Utf8.encodeChars noteTable) ∧
      ∃ t os ts, Utf8.decode noteBytes = .ok t ∧ Json.readRecords t.unifyLineEnds = .ok os ∧
        ((ownTable []).formatter none).IsDocument (Store.ofRecords os).2 [] (Store.ofRecords os).1 ts ∧
        ts.flatten = noteTable := by
  have hrefused : (ownTable [""]).IsRefused noteSession := .inl ⟨"", List.mem_singleton.2 rfl, _, rfl⟩
  have hdone : (ownTable []).run.outcome noteSession = .ok () := by decide +kernel
  have htable : ((ownTable []).run.after noteSession).directory = notesWith (Utf8.encodeChars noteTable) := by
    decide +kernel
  obtain ⟨hkept, -⟩ := run_files (ownTable [""]) noteSession
  obtain ⟨-, hwritten⟩ := run_files (ownTable []) noteSession
  obtain ⟨t, fields, os, ts, ht, hread, hfields, hdocument, hback, hentry, -⟩ :=
    hwritten ["notes"] noteBytes 0o644 overwrites_notes hdone
  cases hfields
  refine ⟨(hkept hrefused).2, htable, t, os, ts, ht, hread, hdocument, ?_⟩
  have hnow : Directory.entry? (notesWith (Utf8.encodeChars noteTable)) ["notes"] =
      some (.file (Utf8.encodeChars noteTable) 0o644) := by decide +kernel
  rw [htable, hnow] at hentry
  have hbytes : Utf8.encodeChars noteTable = Utf8.encodeChars ts.flatten :=
    (DirectoryEntry.file.inj (Option.some.inj hentry)).1
  have hdecode : Utf8.decode (Utf8.encodeChars noteTable) = .ok noteTable := by decide +kernel
  rw [← hbytes] at hback
  exact Except.ok.inj (hback.symm.trans hdecode)

end Rendering

end RecordPrint
