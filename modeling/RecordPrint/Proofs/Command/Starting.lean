import RecordPrint.Command.Program
import RecordPrint.Proofs.Command.Rendering
import RecordPrint.Proofs.Log.Settings

/-!
# How the program starts

* `Program.outcome_bind`, `Program.outcome_read`, `Program.outcome_start` — what the parts of a run come to;
* `Action.IgnoresLevels` — the actions that do not stop for the name of a level; no command does, once it is started;
* `Program.Starts` — the arguments with which the program starts, so that it looks at the setting of the environment;
* `Program.misread_iff` — a setting stops the program, or setting up a log, exactly if it is misread;
* `Program.start_eq_setUp_iff` — the program and a log that is set up without a threshold take the same level from a
  setting, unless this is the level zero.
-/

namespace RecordPrint

/-! ### Actions -/

namespace Action

variable {α β : Type}

/-- An action that does not stop for the name of a level. -/
def IgnoresLevels (a : Action α) : Prop := ∀ s f, a.outcome s ≠ .error (.crash (.level f))

theorem IgnoresLevels.bind {a : Action α} {g : α → Action β} (ha : a.IgnoresLevels) (hg : ∀ x, (g x).IgnoresLevels) :
    (a >>= g).IgnoresLevels := by
  intro s f h
  rw [outcome_bind] at h
  rcases bind_eq_error_iff.1 h with hfirst | ⟨x, -, hnext⟩
  · exact ha s f hfirst
  · exact hg x _ f hnext

theorem ignoresLevels_ofResult {r : Except Stop α} (h : ∀ f, r ≠ .error (.crash (.level f))) :
    (ofResult r).IgnoresLevels := by
  intro s f hf
  rw [outcome_ofResult] at hf
  exact h f hf

theorem ignoresLevels_pure (x : α) : (pure x : Action α).IgnoresLevels := fun _ _ h => nomatch h

theorem ignoresLevels_modify (g : Session → Session) : (modify g : Action Unit).IgnoresLevels := fun _ _ h => nomatch h

theorem ignoresLevels_get : (get : Action Session).IgnoresLevels := fun _ _ h => nomatch h

end Action

/-- What keeps a document from its destination is not the name of a level. -/
theorem DeliveryFault.toStop_ne_level (fault : DeliveryFault) (target : Text) (f : Numeral.ReadError) :
    fault.toStop target ≠ .crash (.level f) := by
  intro h
  rcases fault with (g | _) | ⟨e | (g | g)⟩
  · cases h
  · cases h
  · by_cases hvalue : e.isValueFault
    · rw [toStop, if_pos hvalue] at h
      cases h
    · rw [toStop, if_neg hvalue] at h
      cases h
  · cases h
  · cases h

namespace Rendering

theorem textOf_ne_level (s : Session) (source : Text) (f : Numeral.ReadError) :
    textOf s source ≠ .error (.crash (.level f)) := by
  intro h
  rcases bind_eq_error_iff.1 h with hbytes | ⟨bytes, -, hdecode⟩
  · unfold bytesOf at hbytes
    split at hbytes
    · cases hbytes
    · cases hread : s.directory.read (Path.ofSlashes source).text with
      | ok bytes =>
        rw [hread] at hbytes
        cases hbytes
      | error fault =>
        rw [hread] at hbytes
        cases fault <;> cases hbytes
  · cases hutf : Utf8.decode bytes with
    | ok t =>
      rw [hutf] at hdecode
      cases hdecode
    | error fault =>
      rw [hutf] at hdecode
      cases hdecode

theorem recordsOf_ne_level (source t : Text) (f : Numeral.ReadError) :
    recordsOf source t ≠ .error (.crash (.level f)) := by
  unfold recordsOf
  rcases Json.readRecords t with (⟨line, ⟨problem, offset⟩ | n⟩ | ⟨index, type⟩) | os <;> exact fun h => nomatch h

theorem ignoresLevels_prepare (r : Rendering) : r.prepare.IgnoresLevels := by
  unfold prepare
  refine (Action.ignoresLevels_ofResult fun f => ?_).bind fun _ => ?_
  · cases Field.ofOptions r.columns <;> exact fun h => nomatch h
  refine (Action.ignoresLevels_modify _).bind fun _ => ?_
  refine Action.ignoresLevels_get.bind fun s => ?_
  refine (Action.ignoresLevels_ofResult (textOf_ne_level s r.source)).bind fun t => ?_
  refine (Action.ignoresLevels_ofResult (recordsOf_ne_level r.source t)).bind fun _ => ?_
  exact (Action.ignoresLevels_modify _).bind fun _ => Action.ignoresLevels_pure _

theorem ignoresLevels_deliver (f : Formatter) (σ : Store) (schema : Schema) (records : List Value) (destination : Text) :
    (deliver f σ schema records destination).IgnoresLevels := by
  intro s e h
  rw [outcome_deliver] at h
  split at h
  · cases h
  · rename_i fault _
    exact fault.toStop_ne_level _ e (Except.error.inj h)

theorem ignoresLevels_run (r : Rendering) : r.run.IgnoresLevels := by
  unfold run
  refine (ignoresLevels_prepare r).bind fun x => (Action.ignoresLevels_modify _).bind fun _ => ?_
  exact ignoresLevels_deliver _ _ _ _ _

end Rendering

theorem VersionForm.ignoresLevels_tell (r : Release) (form : VersionForm) : (form.tell r).IgnoresLevels := by
  cases form with
  | line => exact Action.ignoresLevels_modify _
  | document f =>
    refine (Rendering.ignoresLevels_deliver _ _ _ _ _).bind fun _ => ?_
    split
    · exact Action.ignoresLevels_modify _
    · exact Action.ignoresLevels_pure _

/-! ### Parts of a run -/

namespace Program

variable {α β : Type} {called : Text} {c : Command} {arguments : List Text} {a : Arguments} {s : Session}
  {setting : Option Text} {chosen level : Level} {f : Numeral.ReadError}

/-- What a part of a run comes to in a session. -/
def outcome (p : Program α) (s : Session) : Except Ending α := ((ExceptT.run p).run s).1

/-- The session after a part of a run. -/
def after (p : Program α) (s : Session) : Session := ((ExceptT.run p).run s).2

theorem run_bind (p : Program α) (g : α → Program β) (s : Session) :
    (ExceptT.run (p >>= g)).run s = (ExceptT.bindCont g (p.outcome s)).run (p.after s) := rfl

theorem outcome_bind (p : Program α) (g : α → Program β) (s : Session) :
    (p >>= g).outcome s = (p.outcome s).bind fun x => (g x).outcome (p.after s) := by
  rw [outcome, run_bind]
  cases p.outcome s <;> rfl

theorem after_bind (p : Program α) (g : α → Program β) (s : Session) : (p >>= g).after s =
    match p.outcome s with
    | .error _ => p.after s
    | .ok x => (g x).after (p.after s) := by
  rw [after, run_bind]
  cases p.outcome s <;> rfl

theorem outcome_perform (a : Action Unit) (s : Session) :
    (perform a).outcome s = (a.outcome s).mapError Ending.stopped := rfl

/-- Arguments are read unless they do not fit the command or ask for help. -/
theorem outcome_read (called : Text) (c : Command) (arguments : List Text) (s : Session) :
    (read called c arguments).outcome s =
      match c.spec.read arguments with
      | .error f => .error (.misused c f)
      | .ok a => if a.count Command.helpOption.long = 0 then .ok a else .error .finished := by
  unfold read
  cases c.spec.read arguments with
  | error f => rfl
  | ok a =>
    by_cases hhelp : a.count Command.helpOption.long = 0
    · simp only [if_pos hhelp]
      rfl
    · simp only [if_neg hhelp]
      rfl

theorem outcome_read_eq_ok_iff : (read called c arguments).outcome s = .ok a ↔
    c.spec.read arguments = .ok a ∧ a.count Command.helpOption.long = 0 := by
  rw [outcome_read]
  cases c.spec.read arguments with
  | error f => simp
  | ok b =>
    by_cases hhelp : b.count Command.helpOption.long = 0
    · simp only [if_pos hhelp, Except.ok.injEq]
      exact ⟨fun h => ⟨h, h ▸ hhelp⟩, And.left⟩
    · simp only [if_neg hhelp, Except.ok.injEq]
      exact iff_of_false (fun h => nomatch h) fun h => hhelp (h.1 ▸ h.2)

theorem read_ne_stopped (e : Stop) : (read called c arguments).outcome s ≠ .error (.stopped e) := by
  rw [outcome_read]
  cases c.spec.read arguments with
  | error f => exact fun h => nomatch h
  | ok a =>
    simp only
    split <;> exact fun h => nomatch h

theorem after_read (h : (read called c arguments).outcome s = .ok a) : (read called c arguments).after s = s := by
  obtain ⟨hread, hhelp⟩ := outcome_read_eq_ok_iff.1 h
  unfold read
  simp only [hread, if_pos hhelp]
  rfl

theorem outcome_start (a : Arguments) (s : Session) :
    (start a).outcome s = ((threshold s.setting a).mapError Ending.stopped).map fun _ => () := by
  have hget : (get : Program Session).outcome s = .ok s := rfl
  rw [start, outcome_bind, hget]
  show (liftExcept ((threshold s.setting a).mapError Ending.stopped) >>= _ : Program Unit).outcome s = _
  rw [outcome_bind]
  cases threshold s.setting a <;> rfl

theorem after_start (h : threshold s.setting a = .ok level) : (start a).after s = { s with threshold := level } := by
  have hget : (get : Program Session).outcome s = .ok s := rfl
  rw [start, after_bind, hget]
  show (liftExcept ((threshold s.setting a).mapError Ending.stopped) >>= _ : Program Unit).after s = _
  rw [after_bind, h]
  rfl

/-! ### Thresholds -/

/-- Arguments do not ask both for more and for less to be logged. -/
def IsUnambiguous (a : Arguments) : Prop := a.count "--verbose" = 0 ∨ a.count "--quiet" = 0

theorem isUnambiguous_iff :
    IsUnambiguous a ↔ ∃ chosen, verbosityLevel (a.count "--verbose") (a.count "--quiet") = .ok chosen := by
  unfold IsUnambiguous verbosityLevel
  by_cases hboth : (0 : Int) < a.count "--verbose" ∧ (0 : Int) < a.count "--quiet"
  · simp only [if_pos hboth]
    refine iff_of_false (by omega) fun ⟨_, h⟩ => nomatch h
  · simp only [if_neg hboth]
    refine iff_of_true (by omega) ?_
    repeat' split
    all_goals exact ⟨_, rfl⟩

theorem threshold_eq (h : verbosityLevel (a.count "--verbose") (a.count "--quiet") = .ok chosen) :
    threshold setting a =
      match Level.ofEnvironment setting with
      | .error f => .error (.crash (.level f))
      | .ok asked => .ok (asked.getD chosen) := by
  unfold threshold
  rw [h]
  cases Level.ofEnvironment setting <;> rfl

/-- The setting of the environment stops the start of the program if it is misread, unless the arguments do so first. -/
theorem threshold_eq_level_iff :
    threshold setting a = .error (.crash (.level f)) ↔ IsUnambiguous a ∧ Level.ofEnvironment setting = .error f := by
  rw [isUnambiguous_iff]
  cases hchosen : verbosityLevel (a.count "--verbose") (a.count "--quiet") with
  | error e =>
    have hfails : threshold setting a = .error (.failure e) := by
      unfold threshold
      rw [hchosen]
      rfl
    rw [hfails]
    simp
  | ok chosen =>
    rw [threshold_eq hchosen]
    cases Level.ofEnvironment setting <;> simp

/-! ### Runs -/

/-- Arguments with which the program starts: its own options can be read, do not ask for help, nor both for more and for
less to be logged, and what stands behind them begins with the name of a command, if there is anything. -/
def Starts (arguments : List Text) : Prop :=
  ∃ a, Command.program.spec.read arguments = .ok a ∧ a.count Command.helpOption.long = 0 ∧ IsUnambiguous a ∧
    ∀ name ∈ a.operands.head?, (Command.ofName? name).isSome

/-- A part of a run that is not stopped for the name of a level. -/
def IgnoresLevels (p : Program Unit) : Prop := ∀ s f, p.outcome s ≠ .error (.stopped (.crash (.level f)))

theorem ignoresLevels_perform {action : Action Unit} (h : action.IgnoresLevels) : (perform action).IgnoresLevels := by
  intro s f hf
  rw [outcome_perform] at hf
  cases hresult : action.outcome s with
  | ok x =>
    rw [hresult] at hf
    cases hf
  | error e =>
    rw [hresult] at hf
    cases hf
    exact h s f hresult

theorem ignoresLevels_read_bind {next : Arguments → Program Unit} (h : ∀ b, (next b).IgnoresLevels) :
    (read called c arguments >>= next).IgnoresLevels := by
  intro s f hf
  rw [outcome_bind] at hf
  rcases bind_eq_error_iff.1 hf with hread | ⟨b, -, hnext⟩
  · exact read_ne_stopped _ hread
  · exact h b _ f hnext

theorem ignoresLevels_throw (c : Command) (g : UsageFault) : (throw (.misused c g) : Program Unit).IgnoresLevels :=
  fun _ _ h => nomatch h

theorem ignoresLevels_modify (g : Session → Session) : (modify g : Program Unit).IgnoresLevels := fun _ _ h => nomatch h

/-- No command is stopped for the name of a level once it is performed. -/
theorem ignoresLevels_performCommand (c : Command) (a : Arguments) : (performCommand c a).IgnoresLevels := by
  cases c with
  | program => exact fun _ _ h => nomatch h
  | render =>
    unfold performCommand
    cases Rendering.ofArguments a with
    | error g => exact ignoresLevels_throw _ _
    | ok r => exact ignoresLevels_perform r.ignoresLevels_run
  | version =>
    unfold performCommand
    cases VersionForm.ofArguments a with
    | error g => exact ignoresLevels_throw _ _
    | ok form => exact ignoresLevels_perform (form.ignoresLevels_tell _)

/-- What follows the start does not look at the setting of the environment again. -/
theorem start_bind_eq_level_iff {next : Program Unit} (hnext : next.IgnoresLevels) :
    (start a >>= fun _ => next).outcome s = .error (.stopped (.crash (.level f))) ↔
      IsUnambiguous a ∧ Level.ofEnvironment s.setting = .error f := by
  rw [outcome_bind, outcome_start, ← threshold_eq_level_iff]
  cases threshold s.setting a with
  | error e => simp [Except.mapError, Except.map, Except.bind]
  | ok level => exact iff_of_false (hnext _ _) fun h => nomatch h

/-- The parts of a run are stopped by the setting of the environment exactly if the arguments start the program and the
setting is misread. -/
theorem outcome_body_eq_level_iff : (body called arguments).outcome s = .error (.stopped (.crash (.level f))) ↔
    Starts arguments ∧ Level.ofEnvironment s.setting = .error f := by
  have hread : ∀ a, Command.program.spec.read arguments = .ok a ∧ a.count Command.helpOption.long = 0 ↔
      (read called .program arguments).outcome s = .ok a := fun a => outcome_read_eq_ok_iff.symm
  simp only [body, outcome_bind, Starts, ← and_assoc, hread]
  cases hfirst : (read called .program arguments).outcome s with
  | error e =>
    -- arguments that cannot be read end the run before it starts
    refine iff_of_false (fun h => ?_) ?_
    · cases h
      exact read_ne_stopped _ hfirst
    · rintro ⟨⟨a, ⟨ha, -⟩, -⟩, -⟩
      cases ha
  | ok a =>
    simp only [Except.bind, after_read hfirst, Except.ok.injEq, and_assoc, exists_eq_left']
    cases hoperands : a.operands with
    | nil =>
      simp only [List.head?_nil]
      rw [start_bind_eq_level_iff (ignoresLevels_modify _)]
      simp
    | cons name rest =>
      cases hname : Command.ofName? name with
      | none =>
        -- and so does a word that is the name of no command
        simp only [hname, List.head?_cons]
        refine iff_of_false (ignoresLevels_read_bind (fun _ => ignoresLevels_throw _ _) _ _) ?_
        simp [hname]
      | some c =>
        simp only [hname, List.head?_cons]
        rw [start_bind_eq_level_iff (ignoresLevels_read_bind (ignoresLevels_performCommand c))]
        simp [hname]

theorem ending_run (called : Text) (arguments : List Text) (s : Session) : (run called arguments s).2 =
    match (body called arguments).outcome s with
    | .ok _ => .finished
    | .error ending => ending := rfl

theorem ending_run_eq_level_iff : (run called arguments s).2 = .stopped (.crash (.level f)) ↔
    Starts arguments ∧ Level.ofEnvironment s.setting = .error f := by
  have hbody : (body called arguments).outcome s = .error (.stopped (.crash (.level f))) ↔
      Starts arguments ∧ Level.ofEnvironment s.setting = .error f := outcome_body_eq_level_iff
  rw [← hbody, ending_run]
  cases (body called arguments).outcome s <;> simp

/-- A text that is the setting of the environment is misread exactly if digits stand in it, with blanks around them, that
are no numeral, or one that is too long; it gives a level exactly if it asks for one. A misread setting leaves the
environment without a level to ask for, keeps a log from being set up where no threshold is given, and stops each run
whose arguments start the program. No other setting does any of this. -/
theorem misread_iff (t : Text) :
    ((∃ f, Level.parse t = .error f) ↔ ∃ ds, t.Surrounds ds ∧ ds.isDigits = true ∧
      ((∃ c ∈ ds, c.decimal? = none) ∨ Numeral.digitLimit < ds.length)) ∧
    (∀ level, Level.parse t = .ok (some level) ↔ Level.AsksFor t level) ∧
    ∀ f, (Level.ofEnvironment (some t) = .error f ↔ Level.parse t = .error f) ∧
      (∀ (j : Journal) stream, (j.setEnvironment (some t)).setUp none stream = .error f ↔ Level.parse t = .error f) ∧
      ∀ called arguments (s : Session), (run called arguments { s with setting := some t }).2 =
        .stopped (.crash (.level f)) ↔ Starts arguments ∧ Level.parse t = .error f := by
  refine ⟨Level.exists_parse_eq_error_iff.trans Level.isMisread_iff, fun level => Level.parse_eq_some_iff, fun f => ?_⟩
  rw [← Level.ofEnvironment_some]
  exact ⟨Iff.rfl, fun j stream => Journal.setUp_setting_eq_error_iff, fun called arguments s => ending_run_eq_level_iff⟩

/-- A digit that is no decimal one is a setting that keeps a log from being set up, and stops the program also where it
is called without arguments. -/
theorem misread_iff_squared : ∃ f,
    (Journal.empty.setEnvironment (some Journal.squared)).setUp none 0 = .error f ∧
      ∀ s : Session, (run "recordout" [] { s with setting := some Journal.squared }).2 =
        .stopped (.crash (.level f)) := by
  obtain ⟨hmisread, -, hstops⟩ := misread_iff Journal.squared
  obtain ⟨f, hf⟩ := hmisread.2
    ⟨Journal.squared, ⟨[], [], rfl, rfl, rfl⟩, by decide, .inl ⟨_, List.mem_singleton_self _, by decide⟩⟩
  obtain ⟨-, hsetUp, hrun⟩ := hstops f
  have hstarts : Starts [] := ⟨.none, rfl, rfl, .inl rfl, fun _ h => nomatch h⟩
  exact ⟨f, (hsetUp _ _).2 hf, fun s => (hrun _ _ s).2 ⟨hstarts, hf⟩⟩

/-! ### Levels of the environment -/

/-- The program starts with the level that the environment asks for, however often its arguments ask for more or for
less, and with the one that they ask for if the environment asks for none. -/
theorem start_of_setting (hcounts : verbosityLevel (a.count "--verbose") (a.count "--quiet") = .ok chosen)
    {asked : Option Level} (hasked : Level.ofEnvironment s.setting = .ok asked) :
    (start a).outcome s = .ok () ∧ (start a).after s = { s with threshold := asked.getD chosen } := by
  have hthreshold : threshold s.setting a = .ok (asked.getD chosen) := by
    rw [threshold_eq hcounts, hasked]
  refine ⟨?_, after_start hthreshold⟩
  rw [outcome_start, hthreshold]
  rfl

/-- A setting that asks for a level gives the program this threshold, however often its arguments ask for more or for
less, but not for both. It gives it to a log that is set up without a threshold as well, unless it is zero, which the
settings of zeros and the name of the level zero ask for: then the log gets the critical one. So a log gets the critical
one from the settings that can be read and ask for no level at all, for the level zero, or for the critical one. -/
theorem start_eq_setUp_iff (setting : Option Text) (j : Journal) (stream : Nat) :
    (∀ t level, setting = some t → Level.AsksFor t level →
      (∀ (a : Arguments) (s : Session), IsUnambiguous a → (start a).outcome { s with setting := setting } = .ok () ∧
        ((start a).after { s with setting := setting }).threshold = level) ∧
      ∃ after, (j.setEnvironment setting).setUp none stream = .ok after ∧
        (after.threshold = level ↔ level ≠ 0) ∧ (level = 0 → after.threshold = Level.critical)) ∧
    (∀ t, Level.AsksFor t 0 ↔
      (∃ ds, t.Surrounds ds ∧ ds ≠ [] ∧ (∀ c ∈ ds, c.decimal? = some 0) ∧ ds.length ≤ Numeral.digitLimit) ∨
        ∃ word, t.Surrounds word ∧ word.capitals = "NOTSET") ∧
    ((∃ after, (j.setEnvironment setting).setUp none stream = .ok after ∧ after.threshold = Level.critical) ↔
      ∀ t, setting = some t → ¬ Level.IsMisread t ∧
        ∀ level, Level.AsksFor t level → level = 0 ∨ level = Level.critical) := by
  refine ⟨?_, fun t => Level.asksFor_zero_iff, Journal.exists_setUp_iff.trans Level.threshold_eq_critical_iff⟩
  intro t level hsetting hlevel
  have hasked : Level.ofEnvironment setting = .ok (some level) :=
    Level.ofEnvironment_eq_some_iff.2 ⟨t, hsetting, hlevel⟩
  refine ⟨fun a s hcounts => ?_, ?_⟩
  · obtain ⟨chosen, hchosen⟩ := isUnambiguous_iff.1 hcounts
    obtain ⟨hdone, hafter⟩ := start_of_setting (s := { s with setting := setting }) hchosen hasked
    exact ⟨hdone, by rw [hafter]; rfl⟩
  · have hthreshold : Level.threshold setting = .ok (Level.orCritical (some level)) := by
      rw [Level.threshold_eq, hasked]
      rfl
    have hsetUp : ∃ after, (j.setEnvironment setting).setUp none stream = .ok after ∧
        after.threshold = Level.orCritical (some level) := Journal.exists_setUp_iff.2 hthreshold
    obtain ⟨after, hafter, hlog⟩ := hsetUp
    refine ⟨after, hafter, ?_, fun hzero => ?_⟩
    · rw [hlog, Level.orCritical_some_eq_iff]
    · rw [hlog, hzero]
      rfl

/-- With zero as its setting the program starts with the threshold zero, but a log gets the critical one. -/
theorem start_eq_setUp_iff_zero :
    (∀ s : Session, ((start .none).after { s with setting := some ("0" : Text) }).threshold = 0) ∧
      ∃ after, (Journal.empty.setEnvironment (some ("0" : Text))).setUp none 0 = .ok after ∧
        after.threshold = Level.critical := by
  obtain ⟨hasked, hzero, -⟩ := start_eq_setUp_iff (some ("0" : Text)) Journal.empty 0
  have hlevel : Level.AsksFor ("0" : Text) 0 :=
    (hzero _).2 (.inl ⟨("0" : Text), ⟨[], [], rfl, rfl, rfl⟩, by decide, by decide, by decide⟩)
  obtain ⟨hstart, after, hafter, -, hcritical⟩ := hasked _ _ rfl hlevel
  exact ⟨fun s => (hstart .none s (.inl rfl)).2, after, hafter, hcritical rfl⟩

end Program

end RecordPrint
