import RecordPrint.Command.Session

/-!
# Actions

* `outcome_bind`, `after_bind` — what an action comes to and leaves that goes on behind another one;
* `Quiet` — the actions that change nothing of a session but what stands on standard error.
-/

namespace RecordPrint

namespace Action

variable {α β : Type}

/-- What an action comes to in a session. -/
def outcome (a : Action α) (s : Session) : Except Stop α := (a.run.run s).1

/-- The session after an action. -/
def after (a : Action α) (s : Session) : Session := (a.run.run s).2

theorem run_bind (a : Action α) (f : α → Action β) (s : Session) :
    (a >>= f).run.run s = (ExceptT.bindCont f (a.outcome s)).run (a.after s) := rfl

theorem outcome_bind (a : Action α) (f : α → Action β) (s : Session) :
    (a >>= f).outcome s = (a.outcome s).bind fun x => (f x).outcome (a.after s) := by
  rw [outcome, run_bind]
  cases a.outcome s <;> rfl

/-- An action that goes on behind another one is left out if this stops. -/
theorem after_bind (a : Action α) (f : α → Action β) (s : Session) : (a >>= f).after s =
    match a.outcome s with
    | .error _ => a.after s
    | .ok x => (f x).after (a.after s) := by
  rw [after, run_bind]
  cases a.outcome s <;> rfl

theorem outcome_ofResult (r : Except Stop α) (s : Session) : (ofResult r).outcome s = r := by
  cases r <;> rfl

theorem after_ofResult (r : Except Stop α) (s : Session) : (ofResult r).after s = s := by
  cases r <;> rfl

/-- An action that changes nothing but what has been written to standard error. -/
def Quiet (a : Action α) : Prop := ∀ s, ∃ errors, a.after s = { s with errors := errors }

theorem quiet_ofResult (r : Except Stop α) : (ofResult r).Quiet := fun s => ⟨s.errors, after_ofResult r s⟩

theorem quiet_pure (x : α) : (pure x : Action α).Quiet := fun s => ⟨s.errors, rfl⟩

theorem quiet_throw (e : Stop) : (throw e : Action α).Quiet := fun s => ⟨s.errors, rfl⟩

theorem quiet_get : (get : Action Session).Quiet := fun s => ⟨s.errors, rfl⟩

theorem quiet_log (ms : List Message) : (log ms).Quiet := by
  intro s
  show ∃ errors, s.notes ms = { s with errors := errors }
  unfold Session.notes
  -- each message is logged in the session that the ones before it have left
  induction ms generalizing s with
  | nil => exact ⟨s.errors, rfl⟩
  | cons m ms ih =>
    obtain ⟨errors, herrors⟩ := ih (s.note m)
    have hnote : ∃ errors, s.note m = { s with errors := errors } := by
      unfold Session.note
      split
      · exact ⟨_, rfl⟩
      · exact ⟨s.errors, rfl⟩
    obtain ⟨first, hfirst⟩ := hnote
    exact ⟨errors, by rw [List.foldl_cons, herrors, hfirst]⟩

theorem Quiet.bind {a : Action α} {f : α → Action β} (ha : a.Quiet) (hf : ∀ x, (f x).Quiet) : (a >>= f).Quiet := by
  intro s
  obtain ⟨errors, herrors⟩ := ha s
  rw [after, run_bind]
  cases a.outcome s with
  | error e => exact ⟨errors, herrors⟩
  | ok x =>
    obtain ⟨more, hmore⟩ := hf x (a.after s)
    exact ⟨more, hmore.trans (by rw [herrors])⟩

end Action

end RecordPrint
