import RecordPrint.Document.Deliveries
import RecordPrint.Proofs.Document.Encoding
import RecordPrint.Proofs.System.Directory
import RecordPrint.Proofs.Text.Utf8

/-!
# What deliveries touch

* `Cargo.Written` — how much of the cargo is written before which fault;
* `write_ofBytes` — what a file is given is written in this sense, and has an encoding;
* `DeliveryStep.target?` — the file or device that a step opens, if it opens one;
* `step_file`, `entry_step_of_ne` — a step replaces the content of the file it opens and changes no other one;
* `entry_run` — so a run changes no file that none of its steps opens;
* `run_touches` — what a step of a run leaves, up to the end of the run.
-/

namespace RecordPrint

variable {σ : Store} {schema : Schema}

/-! ### What a file is given -/

namespace Formatter

variable {chunks : List (Except Fault Text)}

theorem putChunks_ofBytes_cons {before : List Text} {t : Text} (ht : Utf8.IsCharacters t) :
    putChunks ⟨before, none, true⟩ (.ok t :: chunks) = putChunks ⟨before ++ [t], none, true⟩ chunks := by
  have hput : Sink.put ⟨before, none, true⟩ t = .ok ⟨before ++ [t], none, true⟩ := by
    simp only [Sink.put, Sink.encodingFault?, if_true, Utf8.surrogates_eq_none_iff.2 ht]
  rw [putChunks, hput]

end Formatter

namespace Cargo

/-- The chunks of what is delivered, each of which may turn out to have no text. -/
def chunks (σ : Store) (schema : Schema) : Cargo → Except Fault (List (Except Fault Text))
  | document f records => f.chunks σ schema records
  | pieces ts => .ok (ts.map .ok)

theorem write_eq (c : Cargo) (sink : Sink) : c.write σ schema sink =
    match c.chunks σ schema with
    | .error e => (sink, some (.record e))
    | .ok cs => Formatter.putChunks sink cs := by
  cases c with
  | document f records => rfl
  | pieces ts => exact (Formatter.putChunks_ok sink ts).symm

/-- The texts that are written of some cargo, and the fault that keeps the rest from being written: the whole cargo
without a fault, or what is in front of the first chunk that has no text or whose text has no encoding. -/
inductive Written (σ : Store) (schema : Schema) (c : Cargo) : List Text → Option WriteFault → Prop
  | whole {ts : List Text} (h : c.chunks σ schema = .ok (ts.map .ok)) : Written σ schema c ts none
  | refused {e : Fault} (h : c.chunks σ schema = .error e) : Written σ schema c [] (some (.record e))
  | textless {ts : List Text} {e : Fault} {behind : List (Except Fault Text)}
      (h : c.chunks σ schema = .ok (ts.map .ok ++ .error e :: behind)) : Written σ schema c ts (some (.record e))
  | unencoded {ts : List Text} {t : Text} {f : EncodeFault} {behind : List (Except Fault Text)}
      (h : c.chunks σ schema = .ok (ts.map .ok ++ .ok t :: behind)) (hf : Utf8.surrogates? 0 t = some f) :
      Written σ schema c ts (some (.stream (.encoding f)))

/-- What is put behind some chunks that are written already. -/
theorem putChunks_ofBytes {c : Cargo} {before : List Text} {chunks : List (Except Fault Text)}
    (hbefore : ∀ t ∈ before, Utf8.IsCharacters t) (h : c.chunks σ schema = .ok (before.map .ok ++ chunks)) :
    ∃ ts fault, Formatter.putChunks ⟨before, none, true⟩ chunks = (⟨ts, none, true⟩, fault) ∧
      c.Written σ schema ts fault ∧ ∀ t ∈ ts, Utf8.IsCharacters t := by
  induction chunks generalizing before with
  | nil =>
    rw [List.append_nil] at h
    exact ⟨before, none, rfl, .whole h, hbefore⟩
  | cons chunk chunks ih =>
    cases chunk with
    | error e => exact ⟨before, some (.record e), rfl, .textless h, hbefore⟩
    | ok t =>
      cases hf : Utf8.surrogates? 0 t with
      | some f =>
        refine ⟨before, some (.stream (.encoding f)), ?_, .unencoded h hf, hbefore⟩
        simp only [Formatter.putChunks, Sink.put, Sink.encodingFault?, if_true, hf]
      | none =>
        have ht : Utf8.IsCharacters t := Utf8.surrogates_eq_none_iff.1 hf
        rw [Formatter.putChunks_ofBytes_cons ht]
        apply ih
        · intro u hu
          rcases List.mem_append.1 hu with hu | hu
          · exact hbefore u hu
          · rw [List.mem_singleton.1 hu]
            exact ht
        · rw [h, List.map_append, List.append_assoc]
          rfl

/-- What a file is given of some cargo. -/
theorem write_ofBytes (σ : Store) (schema : Schema) (c : Cargo) :
    ∃ ts fault, c.write σ schema .ofBytes = (⟨ts, none, true⟩, fault) ∧
      c.Written σ schema ts fault ∧ Utf8.IsCharacters ts.flatten := by
  rw [write_eq]
  cases h : c.chunks σ schema with
  | error e => exact ⟨[], some (.record e), rfl, .refused h, fun _ hc => nomatch hc⟩
  | ok cs =>
    have hnone : ∀ t ∈ ([] : List Text), Utf8.IsCharacters t := fun _ ht => nomatch ht
    obtain ⟨ts, fault, hput, hwritten, hts⟩ := putChunks_ofBytes hnone h
    refine ⟨ts, fault, hput, hwritten, ?_⟩
    intro char hchar
    obtain ⟨t, ht, hchar⟩ := List.mem_flatten.1 hchar
    exact hts t ht char hchar

end Cargo

/-! ### One step -/

/-- The file or device that a step opens; standard output is open already. -/
def DeliveryStep.target? (s : DeliveryStep) (d : Directory) : Option WriteTarget :=
  if Destination.isStandard s.name then none else (d.writeTarget (s.name.getD [])).toOption

namespace Destination

variable (σ schema) {s : DeliveryStep} {found : Surroundings} {place : Place} {steps : List DeliveryStep}

theorem step_standard (h : isStandard s.name) : step σ schema s found =
    ⟨found.directory, (s.cargo.write σ schema found.output).1, false, false,
      (s.cargo.write σ schema found.output).2.map .writing⟩ := by
  have hname : s.name.getD [] = [] := by simpa [isStandard] using h
  simp only [step, deliver, hname]

theorem name_eq_cons (h : ¬ isStandard s.name) : ∃ c path, s.name.getD [] = c :: path := by
  apply List.exists_cons_of_ne_nil
  simpa [isStandard] using h

theorem step_unopened (hname : ¬ isStandard s.name) {f : OpenFault}
    (h : found.directory.writeTarget (s.name.getD []) = .error f) :
    step σ schema s found = ⟨found.directory, found.output, false, false, some (.opening f)⟩ := by
  obtain ⟨c, path, hpath⟩ := name_eq_cons hname
  rw [hpath] at h
  simp only [step, deliver, hpath, h]

theorem target_eq_some {target : WriteTarget} (h : s.target? found.directory = some target) :
    ¬ isStandard s.name ∧ found.directory.writeTarget (s.name.getD []) = .ok target := by
  unfold DeliveryStep.target? at h
  split at h
  · cases h
  · refine ⟨‹_›, ?_⟩
    cases htarget : found.directory.writeTarget (s.name.getD []) with
    | error f =>
      rw [htarget] at h
      cases h
    | ok opened =>
      rw [htarget] at h
      cases h
      rfl

theorem step_device {device : Device} (h : s.target? found.directory = some (.device device)) :
    ∃ fault : Option WriteFault,
      step σ schema s found = ⟨found.directory, found.output, true, true, fault.map .writing⟩ := by
  obtain ⟨hname, htarget⟩ := target_eq_some h
  obtain ⟨c, path, hpath⟩ := name_eq_cons hname
  rw [hpath] at htarget
  let written := s.cargo.write σ schema .ofBytes
  refine ⟨(closingFault? device written.1).or written.2, ?_⟩
  simp only [step, deliver, hpath, htarget, written]

/-- A step replaces the content of the file that it opens by what is written of its cargo. -/
theorem step_file (h : s.target? found.directory = some (.file place)) : found.directory.IsWritable place ∧
    ∃ ts fault, s.cargo.Written σ schema ts fault ∧ Utf8.IsCharacters ts.flatten ∧
      step σ schema s found = ⟨found.directory.put place (Utf8.encodeChars ts.flatten), found.output, true, true,
        fault.map .writing⟩ := by
  obtain ⟨hname, htarget⟩ := target_eq_some h
  obtain ⟨c, path, hpath⟩ := name_eq_cons hname
  obtain ⟨ts, fault, hwrite, hwritten, hts⟩ := s.cargo.write_ofBytes σ schema
  refine ⟨(Directory.isWritable_of_writeTarget htarget).2, ts, fault, hwritten, hts, ?_⟩
  rw [hpath] at htarget
  simp only [step, deliver, hpath, htarget, hwrite]
  rfl

theorem step_targetless (h : s.target? found.directory = none) :
    (isStandard s.name ∧ (step σ schema s found).directory = found.directory ∧ (step σ schema s found).closed = false ∧
        ∀ f, (step σ schema s found).fault ≠ some (.opening f)) ∨
      ∃ f, step σ schema s found = ⟨found.directory, found.output, false, false, some (.opening f)⟩ := by
  by_cases hname : isStandard s.name
  · left
    rw [step_standard σ schema hname]
    refine ⟨hname, rfl, rfl, ?_⟩
    cases (s.cargo.write σ schema found.output).2 <;> simp
  · right
    cases htarget : found.directory.writeTarget (s.name.getD []) with
    | error f => exact ⟨f, step_unopened σ schema hname htarget⟩
    | ok target =>
      rw [DeliveryStep.target?, if_neg hname, htarget] at h
      cases h

/-- A step changes at most the file that it opens. -/
theorem entry_step_of_ne (h : s.target? found.directory ≠ some (.file place)) :
    Directory.entry? (step σ schema s found).directory place = found.directory.entry? place := by
  cases htarget : s.target? found.directory with
  | none =>
    rcases step_targetless σ schema htarget with ⟨-, hsame, -⟩ | ⟨f, hstep⟩
    · rw [hsame]
    · rw [hstep]
  | some target =>
    cases target with
    | device device =>
      obtain ⟨fault, hstep⟩ := step_device σ schema htarget
      rw [hstep]
    | file other =>
      obtain ⟨-, ts, fault, -, -, hstep⟩ := step_file σ schema htarget
      rw [hstep]
      exact Directory.entry_put_of_ne fun heq => h (heq ▸ htarget)

/-- A step closes what it opens. -/
theorem step_closed_iff : (step σ schema s found).closed = true ↔ (s.target? found.directory).isSome := by
  cases htarget : s.target? found.directory with
  | none =>
    rcases step_targetless σ schema htarget with ⟨-, -, hclosed, -⟩ | ⟨f, hstep⟩
    · simp [hclosed]
    · simp [hstep]
  | some target =>
    cases target with
    | device device =>
      obtain ⟨fault, hstep⟩ := step_device σ schema htarget
      simp [hstep]
    | file place =>
      obtain ⟨-, ts, fault, -, -, hstep⟩ := step_file σ schema htarget
      simp [hstep]

/-- A step opens something unless it goes to standard output, or this fails. -/
theorem isSome_target_iff : (s.target? found.directory).isSome ↔
    ¬ isStandard s.name ∧ ∀ f, (step σ schema s found).fault ≠ some (.opening f) := by
  cases htarget : s.target? found.directory with
  | none =>
    rcases step_targetless σ schema htarget with ⟨hname, -⟩ | ⟨f, hstep⟩
    · simp [hname]
    · simp [hstep]
  | some target =>
    have hname := (target_eq_some htarget).1
    cases target with
    | device device =>
      obtain ⟨fault, hstep⟩ := step_device σ schema htarget
      cases fault <;> simp [hname, hstep]
    | file place =>
      obtain ⟨-, ts, fault, -, -, hstep⟩ := step_file σ schema htarget
      cases fault <;> simp [hname, hstep]

/-! ### Runs -/

/-- No step of a run opens the file of a place. -/
def Spares (place : Place) : List DeliveryStep → Surroundings → Prop
  | [], _ => True
  | s :: steps, found =>
    s.target? found.directory ≠ some (.file place) ∧ Spares place steps (step σ schema s found).left

/-- A run changes no file that none of its steps opens. -/
theorem entry_run (h : Spares σ schema place steps found) :
    Directory.entry? (run σ schema steps found).directory place = found.directory.entry? place := by
  induction steps generalizing found with
  | nil => rfl
  | cons s steps ih => exact (ih h.2).trans (entry_step_of_ne σ schema h.1)

/-- A step of a run, whatever the steps before it have left. Standard output is left open and no file changed; if
nothing can be opened, nothing changes. A file that is opened holds exactly the text that is written in the step then,
whatever it held before, until a later step opens it again; it keeps its mode, or has that of created files. No other
file changes, and a stream is closed exactly if the step has opened it, whatever the writing comes to. -/
theorem run_touches (early : List DeliveryStep) (s : DeliveryStep) (late : List DeliveryStep) (found : Surroundings) :
    let before := run σ schema early found
    let d := step σ schema s before
    let after := run σ schema (early ++ s :: late) found
    (isStandard s.name → d.directory = before.directory ∧ d.closed = false) ∧
    ((∃ f, d.fault = some (.opening f)) → d.left = before) ∧
    (∀ place, s.target? before.directory = some (.file place) →
      ∃ ts fault mode, s.cargo.Written σ schema ts fault ∧ d.fault = fault.map .writing ∧
        d.directory.entry? place = some (.file (Utf8.encodeChars ts.flatten) mode) ∧
        Utf8.decode (Utf8.encodeChars ts.flatten) = .ok ts.flatten ∧
        (before.directory.entry? place = none ∧ mode = 0o600 ∨
          ∃ content, before.directory.entry? place = some (.file content mode)) ∧
        d.output = before.output ∧
        (Spares σ schema place late d.left → after.directory.entry? place = d.directory.entry? place)) ∧
    (∀ place, s.target? before.directory ≠ some (.file place) →
      d.directory.entry? place = before.directory.entry? place) ∧
    (d.closed = true ↔ (s.target? before.directory).isSome) ∧
    ((s.target? before.directory).isSome ↔ ¬ isStandard s.name ∧ ∀ f, d.fault ≠ some (.opening f)) := by
  intro before d after
  have hafter : after = run σ schema late d.left := by
    simp only [after, run, List.foldl_append, List.foldl_cons]
    rfl
  refine ⟨?_, ?_, ?_, fun place => entry_step_of_ne σ schema, step_closed_iff σ schema, isSome_target_iff σ schema⟩
  · intro hname
    simp only [d, step_standard σ schema hname, and_self]
  · rintro ⟨f, hf⟩
    have hnone : s.target? before.directory = none := by
      by_contra htarget
      exact ((isSome_target_iff σ schema).1 (Option.isSome_iff_ne_none.2 htarget)).2 f hf
    rcases step_targetless σ schema hnone with ⟨-, -, -, hunfailed⟩ | ⟨g, hstep⟩
    · exact absurd hf (hunfailed f)
    · simp only [d, hstep, Delivery.left]
  · intro place htarget
    obtain ⟨hwritable, ts, fault, hwritten, hts, hstep⟩ := step_file σ schema htarget
    have hd : d = _ := hstep
    refine ⟨ts, fault, before.directory.writtenMode place, hwritten, ?_, ?_, Utf8.decodeFrom_encodeChars hts 0,
      Directory.writtenMode_spec hwritable, ?_, ?_⟩
    · rw [hd]
    · rw [hd]
      exact Directory.entry_put hwritable
    · rw [hd]
    · intro hlate
      rw [hafter]
      exact entry_run σ schema hlate

/-- Two files. -/
def noteFiles : Directory :=
  [(["notes"], .file (Utf8.encodeChars "something longer") 0o644), (["more"], .file (Utf8.encodeChars "more") 0o640)]

/-- A step that writes over the longer content of a file, up to a text that has no encoding, and one that creates
another file. -/
def noteSteps : List DeliveryStep :=
  [⟨some "notes", .pieces ["à", "b", [.surrogate 0], "c"]⟩, ⟨some "new", .pieces ["d"]⟩]

/-- The files after these steps. -/
def noteFilesAfter : Directory :=
  [(["notes"], .file [0xC3, 0xA0, 0x62] 0o644), (["more"], .file (Utf8.encodeChars "more") 0o640),
    (["new"], .file [0x64] 0o600)]

theorem run_touches_notes :
    let found : Surroundings := ⟨noteFiles, .ofBytes⟩
    let after := run #[] (.ofDecls []) noteSteps found
    after.directory = noteFilesAfter ∧
    ∃ ts fault, Cargo.Written #[] (.ofDecls []) (.pieces ["à", "b", [.surrogate 0], "c"]) ts fault ∧
      after.directory.entry? ["notes"] = some (.file (Utf8.encodeChars ts.flatten) 0o644) := by
  intro found after
  have hafter : after.directory = noteFilesAfter := by decide +kernel
  refine ⟨hafter, ?_⟩
  obtain ⟨-, -, hfile, -⟩ := run_touches #[] (.ofDecls []) []
    ⟨some "notes", .pieces ["à", "b", [.surrogate 0], "c"]⟩ [⟨some "new", .pieces ["d"]⟩] found
  obtain ⟨ts, fault, mode, hwritten, -, hentry, -, hmode, -, hlate⟩ := hfile ["notes"] (by decide +kernel)
  have hspares : Spares #[] (.ofDecls []) ["notes"] [⟨some "new", .pieces ["d"]⟩]
      (step #[] (.ofDecls []) ⟨some "notes", .pieces ["à", "b", [.surrogate 0], "c"]⟩ found).left :=
    ⟨by decide +kernel, trivial⟩
  have hend := (hlate hspares).trans hentry
  have hold : found.directory.entry? ["notes"] = some (.file (Utf8.encodeChars "something longer") 0o644) := by
    decide +kernel
  rcases hmode with ⟨hnone, -⟩ | ⟨content, hcontent⟩
  · cases hnone.symm.trans hold
  · cases hcontent.symm.trans hold
    exact ⟨ts, fault, hwritten, hend⟩

end Destination

end RecordPrint
