import RecordPrint.Log.Journal
import RecordPrint.Proofs.Outcome
import RecordPrint.Proofs.Text.Digits

/-!
# Where messages go

* `chosen_eq_error_iff` — no threshold can be installed exactly if it is left to an environment whose setting is made
  of digits and is no numeral, or a numeral that is too long;
* `setUp_eq_ok_iff` — setting logging up leaves exactly one handler, whatever was installed before;
* `RoutedTo` — one handler with the threshold of the journal, as it stays until logging is set up again;
* `submit_routed` — a request adds one line to the stream of this handler, or nothing;
* `run_setEnvironment` — the environment does not matter until logging is set up again;
* `run_routes` — the three for a whole run.
-/

namespace RecordPrint

/-! ### Thresholds -/

namespace Level

/-- A setting asks for a level by digits that are no numeral of an integer, or one that is too long. -/
def IsMisread (setting : Text) : Prop :=
  setting.trim.capitals.isDigits ∧
    ((∃ c ∈ setting.trim.capitals, c.decimal? = none) ∨ Numeral.digitLimit < setting.trim.capitals.length)

instance (setting : Text) : Decidable (IsMisread setting) :=
  inferInstanceAs (Decidable (_ ∧ ((∃ c ∈ setting.trim.capitals, c.decimal? = none) ∨ _)))

theorem exists_parse_eq_error_iff {t : Text} : (∃ e, parse t = .error e) ↔ IsMisread t := by
  unfold parse IsMisread
  by_cases hdigits : t.trim.capitals.isDigits
  · have hword : t.trim.capitals ≠ [] := by
      intro h
      rw [h] at hdigits
      cases hdigits
    have hread := Numeral.exists_read_eq_error_iff (t := t.trim.capitals)
    simp only [hword, false_or] at hread
    simp only [hdigits, if_true, true_and, ← hread]
    cases Numeral.read t.trim.capitals with
    | error e => simp [Except.map, bind, Except.bind]
    | ok n => simp [Except.map, bind, Except.bind, pure, Except.pure]
  · simp [hdigits]

theorem not_isMisread_nil : ¬ IsMisread [] := by decide

/-- No threshold follows from the environment exactly if its setting is misread. -/
theorem exists_threshold_eq_error_iff {setting : Option Text} :
    (∃ e, threshold setting = .error e) ↔ ∃ t, setting = some t ∧ IsMisread t := by
  simp only [threshold, map_eq_error_iff]
  match setting with
  | none => simp [ofEnvironment]
  | some [] => simp [ofEnvironment, not_isMisread_nil]
  | some (c :: t) => simp only [ofEnvironment, exists_parse_eq_error_iff, Option.some.injEq, exists_eq_left']

end Level

namespace LogStep

/-- A step does not set logging up. -/
def IsSteady : LogStep → Prop
  | setUp _ _ => False
  | _ => True

end LogStep

namespace Journal

variable {j after : Journal} {level : Level} {threshold : Option Level} {stream other : Nat} {site t : Text}
  {r : LogRequest} {s : LogStep} {steps : List LogStep}

theorem exists_chosen_eq_error_iff : (∃ e, j.chosen threshold = .error e) ↔
    threshold = none ∧ ∃ t, j.environment = some t ∧ Level.IsMisread t := by
  cases threshold with
  | some level => simp [chosen]
  | none => simp only [chosen, Level.exists_threshold_eq_error_iff, true_and]

/-! ### Setting logging up -/

theorem foldl_removeHandler (hs : List Handler) :
    hs.foldl removeHandler { j with handlers := hs } = { j with handlers := [] } := by
  induction hs with
  | nil => rfl
  | cons h hs ih =>
    rw [List.foldl_cons, removeHandler, List.erase_cons_head]
    exact ih

/-- Whatever was installed, one handler with the chosen threshold is installed afterwards. -/
theorem setUp_eq_ok_iff : j.setUp threshold stream = .ok after ↔
    ∃ level, j.chosen threshold = .ok level ∧
      after = { j with threshold := level, handlers := [⟨stream, level⟩] } := by
  have hsetUp : j.setUp threshold stream = (j.chosen threshold).map fun level =>
      { j with threshold := level, handlers := [⟨stream, level⟩] } := by
    rw [setUp]
    cases j.chosen threshold with
    | error e => rfl
    | ok level =>
      have hbare := foldl_removeHandler (j := { j with threshold := level }) j.handlers
      simp only [bind, Except.bind, pure, Except.pure, Except.map]
      rw [show j.handlers.foldl removeHandler { j with threshold := level } = _ from hbare]
      rfl
  rw [hsetUp, map_eq_ok_iff]
  simp only [eq_comm]

theorem step_setUp (h : j.chosen threshold = .ok level) :
    j.step (.setUp threshold stream) = { j with threshold := level, handlers := [⟨stream, level⟩] } := by
  rw [step, setUp_eq_ok_iff.2 ⟨level, h, rfl⟩]
  rfl

theorem step_setUp_of_error {e : Numeral.ReadError} (h : j.chosen threshold = .error e) :
    j.setUp threshold stream = .error e ∧ j.step (.setUp threshold stream) = j := by
  have hsetUp : j.setUp threshold stream = .error e := by
    rw [setUp, h]
    rfl
  refine ⟨hsetUp, ?_⟩
  rw [step, hsetUp]
  rfl

/-! ### Requests -/

/-- All messages that pass a threshold go to one stream. -/
structure RoutedTo (j : Journal) (stream : Nat) (level : Level) : Prop where
  threshold : j.threshold = level
  handlers : j.handlers = [⟨stream, level⟩]

theorem RoutedTo.append (h : j.RoutedTo stream level) (s : Nat) (line : Text) :
    (j.append s line).RoutedTo stream level := ⟨h.threshold, h.handlers⟩

theorem lines_append_self (line : Text) : (j.append stream line).lines stream = j.lines stream ++ [line] := if_pos rfl

theorem lines_append_of_ne (h : other ≠ stream) (line : Text) : (j.append stream line).lines other = j.lines other :=
  if_neg h

theorem passes_iff {least : Level} : Log.passes least level = true ↔ 0 < level ∧ least ≤ level := by
  simp [Log.passes]

/-- A message that can be made goes to the stream, provided it passes the threshold and its level can be shown. -/
theorem submit_routed (h : j.RoutedTo stream level) (hroot : r.level = none → r.isToRoot = false)
    (hmessage : r.message = .ok t) : j.submit site r =
      if Log.passes level r.loggedAt then
        if r.loggedAt.isShown then .ok (j.append stream (Log.line level r.loggedAt site t)) else .error .tooManyDigits
      else .ok j := by
  have hmay : ¬ (r.level = none ∧ r.isToRoot) := by
    rintro ⟨hnone, hyes⟩
    rw [hroot hnone] at hyes
    cases hyes
  rw [submit, if_neg hmay, h.threshold]
  cases Log.passes level r.loggedAt with
  | false => rfl
  | true =>
    cases r.loggedAt.isShown with
    | false => rfl
    | true => simp only [hmessage, h.handlers, List.foldl_cons, List.foldl_nil, emit]; rfl

theorem lines_step_routed (h : j.RoutedTo stream level) (hroot : r.level = none → r.isToRoot = false)
    (hmessage : r.message = .ok t) : (j.step (.request site r)).lines stream = j.lines stream ++
      if 0 < r.loggedAt ∧ level ≤ r.loggedAt ∧ r.loggedAt.isShown then [Log.line level r.loggedAt site t] else [] := by
  rw [step, submit_routed h hroot hmessage]
  by_cases hpasses : Log.passes level r.loggedAt
  · obtain ⟨hpositive, hreaches⟩ := passes_iff.1 hpasses
    rw [if_pos hpasses]
    by_cases hshown : r.loggedAt.isShown
    · rw [if_pos hshown, if_pos ⟨hpositive, hreaches, hshown⟩]
      exact lines_append_self _
    · rw [if_neg hshown, if_neg fun hall => hshown hall.2.2]
      exact (List.append_nil _).symm
  · rw [if_neg hpasses, if_neg fun hall => hpasses (passes_iff.2 ⟨hall.1, hall.2.1⟩)]
    exact (List.append_nil _).symm

/-- Whatever the request, there is a line more in the stream, or nothing changes. -/
theorem step_request_cases (h : j.RoutedTo stream level) (site : Text) (r : LogRequest) :
    j.step (.request site r) = j ∨ ∃ line, j.step (.request site r) = j.append stream line := by
  rw [step, submit, h.handlers]
  split
  · exact .inl rfl
  · split
    · exact .inl rfl
    · split
      · exact .inl rfl
      · split
        · exact .inr ⟨_, rfl⟩
        · exact .inl rfl

/-! ### Steps that do not set logging up -/

/-- No step of a run sets logging up, although some may try. -/
def Keeps : Journal → List LogStep → Prop
  | _, [] => True
  | j, s :: steps => (∀ threshold stream, s = .setUp threshold stream → ∃ e, j.chosen threshold = .error e) ∧
    Keeps (j.step s) steps

/-- Such a step leaves the route as it is, and all other streams. -/
theorem routed_step (h : j.RoutedTo stream level)
    (hs : ∀ threshold stream, s = .setUp threshold stream → ∃ e, j.chosen threshold = .error e) :
    (j.step s).RoutedTo stream level ∧ ∀ other ≠ stream, (j.step s).lines other = j.lines other := by
  cases s with
  | environment setting => exact ⟨⟨h.threshold, h.handlers⟩, fun _ _ => rfl⟩
  | setUp threshold stream =>
    obtain ⟨e, he⟩ := hs threshold stream rfl
    rw [(step_setUp_of_error he).2]
    exact ⟨h, fun _ _ => rfl⟩
  | request site r =>
    rcases step_request_cases h site r with hstep | ⟨line, hstep⟩
    · rw [hstep]
      exact ⟨h, fun _ _ => rfl⟩
    · rw [hstep]
      exact ⟨h.append _ _, fun other hne => lines_append_of_ne hne line⟩

theorem routed_run (h : j.RoutedTo stream level) (hsteps : j.Keeps steps) :
    (j.run steps).RoutedTo stream level ∧ ∀ other ≠ stream, (j.run steps).lines other = j.lines other := by
  induction steps generalizing j with
  | nil => exact ⟨h, fun _ _ => rfl⟩
  | cons s steps ih =>
    obtain ⟨hroute, hlines⟩ := routed_step h hsteps.1
    obtain ⟨hend, hothers⟩ := ih hroute hsteps.2
    exact ⟨hend, fun other hne => (hothers other hne).trans (hlines other hne)⟩

/-! ### The environment -/

theorem foldl_emit_setEnvironment (hs : List Handler) (setting : Option Text) :
    hs.foldl (emit level site t) (j.setEnvironment setting) =
      (hs.foldl (emit level site t) j).setEnvironment setting := by
  induction hs generalizing j with
  | nil => rfl
  | cons h hs ih => exact ih (j := emit level site t j h)

theorem submit_setEnvironment (setting : Option Text) :
    (j.setEnvironment setting).submit site r = (j.submit site r).map fun j => j.setEnvironment setting := by
  have hthreshold : (j.setEnvironment setting).threshold = j.threshold := rfl
  rw [submit, submit, hthreshold]
  split
  · rfl
  · cases Log.passes j.threshold r.loggedAt with
    | false => rfl
    | true =>
      cases r.loggedAt.isShown with
      | false => rfl
      | true =>
        cases r.message with
        | error f => rfl
        | ok t => exact congrArg Except.ok (foldl_emit_setEnvironment j.handlers setting)

/-- Another setting makes no difference for a step, but for the setting afterwards. -/
theorem step_setEnvironment (hs : s.IsSteady) (setting : Option Text) :
    ∃ later, (j.setEnvironment setting).step s = (j.step s).setEnvironment later := by
  cases s with
  | environment t => exact ⟨t, rfl⟩
  | setUp threshold stream => exact hs.elim
  | request site r =>
    refine ⟨setting, ?_⟩
    rw [step, step, submit_setEnvironment]
    cases j.submit site r <;> rfl

/-- Another setting makes no difference until logging is set up. -/
theorem run_setEnvironment (hsteps : ∀ s ∈ steps, s.IsSteady) (setting : Option Text) :
    ∃ later, (j.setEnvironment setting).run steps = (j.run steps).setEnvironment later := by
  induction steps generalizing j setting with
  | nil => exact ⟨setting, rfl⟩
  | cons s steps ih =>
    obtain ⟨later, hstep⟩ := step_setEnvironment (j := j) (hsteps s List.mem_cons_self) setting
    rw [run, List.foldl_cons, hstep]
    exact ih (fun s hs => hsteps s (List.mem_cons_of_mem _ hs)) later

/-! ### Whole runs -/

theorem run_append (before behind : List LogStep) :
    j.run (before ++ s :: behind) = ((j.run before).step s).run behind := by
  rw [run, List.foldl_append, List.foldl_cons]
  rfl

/-- Logging that is set up at some time of a run, whatever was installed before. This fails exactly if the threshold
is left to an environment whose setting is misread, and nothing changes then. Otherwise exactly one handler is
installed. Until logging is set up again, a message that can be made adds one line to the stream of this handler if
its level is positive and reaches the threshold and can be shown, and else nothing; no other stream changes; and the
environment does not matter. -/
theorem run_routes (j : Journal) (before behind : List LogStep) (threshold : Option Level) (stream : Nat) :
    let found := j.run before
    let after := j.run (before ++ [.setUp threshold stream])
    let now := j.run (before ++ .setUp threshold stream :: behind)
    ((∃ e, found.setUp threshold stream = .error e) ↔
      threshold = none ∧ ∃ t, found.environment = some t ∧ Level.IsMisread t) ∧
    ((∃ e, found.setUp threshold stream = .error e) → after = found) ∧
    ∀ level, found.chosen threshold = .ok level →
      after.handlers = [⟨stream, level⟩] ∧ after.lines = found.lines ∧
      (after.Keeps behind →
        now.handlers = [⟨stream, level⟩] ∧ (∀ other ≠ stream, now.lines other = found.lines other) ∧
        ∀ site r t, (r.level = none → r.isToRoot = false) → r.message = .ok t →
          let next := now.step (.request site r)
          next.lines stream = now.lines stream ++
            (if 0 < r.loggedAt ∧ level ≤ r.loggedAt ∧ r.loggedAt.isShown then [Log.line level r.loggedAt site t]
              else []) ∧
          (∀ other ≠ stream, next.lines other = now.lines other)) ∧
      ((∀ s ∈ behind, s.IsSteady) → ∀ setting, ((after.setEnvironment setting).run behind).lines = now.lines) := by
  intro found after now
  have hafter : after = found.step (.setUp threshold stream) := run_append before []
  have hnow : now = after.run behind := by rw [hafter]; exact run_append before behind
  have hfails : (∃ e, found.setUp threshold stream = .error e) ↔ ∃ e, found.chosen threshold = .error e := by
    constructor
    · rintro ⟨e, he⟩
      cases hchosen : found.chosen threshold with
      | error f => exact ⟨f, rfl⟩
      | ok level =>
        rw [setUp_eq_ok_iff.2 ⟨level, hchosen, rfl⟩] at he
        cases he
    · rintro ⟨e, he⟩
      exact ⟨e, (step_setUp_of_error he).1⟩
  refine ⟨hfails.trans exists_chosen_eq_error_iff, ?_, ?_⟩
  · intro h
    obtain ⟨e, he⟩ := hfails.1 h
    rw [hafter, (step_setUp_of_error he).2]
  intro level hlevel
  have hinstalled : found.step (.setUp threshold stream) =
      { found with threshold := level, handlers := [⟨stream, level⟩] } := step_setUp hlevel
  have hroute : after.RoutedTo stream level := by
    rw [hafter, hinstalled]
    exact ⟨rfl, rfl⟩
  have hlines : after.lines = found.lines := by rw [hafter, hinstalled]
  refine ⟨hroute.handlers, hlines, ?_, ?_⟩
  · intro hkeeps
    obtain ⟨hend, hothers⟩ := routed_run hroute hkeeps
    rw [← hnow] at hend hothers
    refine ⟨hend.handlers, fun other hne => (hothers other hne).trans (congrFun hlines other), ?_⟩
    intro site r t hroot hmessage next
    exact ⟨lines_step_routed hend hroot hmessage, (routed_step (s := .request site r) hend fun _ _ h => nomatch h).2⟩
  · intro hsteady setting
    obtain ⟨later, hrun⟩ := run_setEnvironment (j := after) hsteady setting
    rw [hrun, hnow]
    rfl

/-- A setting that is misread: a digit that is no decimal one. -/
def squared : Text := "²"

/-- Steps that set logging up for one stream, and try to do so for another one and leave the threshold to the
environment. -/
def squaredSteps : List LogStep := [.setUp (some Level.debug) 0, .environment (some squared), .setUp none 1]

def diskRequest : LogRequest := ⟨"recordout", some Level.error, "disk", .inOrder []⟩

theorem run_routes_squared :
    let tried := empty.run squaredSteps
    let next := tried.step (.request "[SITE]" diskRequest)
    (∃ e, (empty.run (squaredSteps.take 2)).setUp none 1 = .error e) ∧ tried.handlers = [⟨0, Level.debug⟩] ∧
      next.lines 0 = [Log.line Level.debug Level.error "[SITE]" "disk"] ∧ next.lines 1 = [] := by
  intro tried next
  have hmisread : Level.IsMisread squared := by decide +kernel
  obtain ⟨hfails, -, -⟩ := run_routes empty (squaredSteps.take 2) [] none 1
  obtain ⟨-, -, hroutes⟩ := run_routes empty [] (squaredSteps.drop 1) (some Level.debug) 0
  obtain ⟨-, -, hkept, -⟩ := hroutes Level.debug rfl
  have herror : ∃ e, (empty.run (squaredSteps.take 2)).setUp none 1 = .error e :=
    hfails.2 ⟨rfl, squared, rfl, hmisread⟩
  have hkeeps : (empty.run ([] ++ [.setUp (some Level.debug) 0])).Keeps (squaredSteps.drop 1) := by
    refine ⟨(fun _ _ h => nomatch h), (fun threshold stream h => ?_), trivial⟩
    cases h
    exact exists_chosen_eq_error_iff.2 ⟨rfl, squared, rfl, hmisread⟩
  obtain ⟨hhandlers, hothers, hnext⟩ := hkept hkeeps
  obtain ⟨hline, hsame⟩ := hnext "[SITE]" diskRequest "disk" (fun h => nomatch h) rfl
  exact ⟨herror, hhandlers, hline, (hsame 1 (by decide)).trans (hothers 1 (by decide))⟩

end Journal

end RecordPrint
