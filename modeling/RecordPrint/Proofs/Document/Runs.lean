import RecordPrint.Document.Run
import RecordPrint.Proofs.Document.Encoding

/-!
# Runs on streams that fail

A run on a stream that takes `N` chunks and then fails, against the same run on a stream that never fails.

* `Sink.limited` — the sink with a budget of `N` chunks, once some chunks have been handed to it;
* `step_unlimited`, `step_limited` — one step on either stream hands it the same chunks;
* `run_limited` — so after a run the one stream has the first `N` chunks of the other.
-/

namespace RecordPrint

namespace Sink

variable {N : Nat} {fault : SystemFault} {chunks ts : List Text}

/-- The sink that never fails, once some chunks have been handed to it. -/
def free (chunks : List Text) : Sink := ⟨chunks, none, false⟩

/-- The sink that takes `N` chunks and then fails, once some chunks have been handed to it. -/
def limited (N : Nat) (fault : SystemFault) (chunks : List Text) : Sink :=
  ⟨chunks.take N, some ⟨N - chunks.length, fault⟩, false⟩

theorem limited_nil : limited N fault [] = failing N fault := by
  rw [limited, failing, List.take_nil, List.length_nil, Nat.sub_zero]

theorem put_limited_of_lt (h : chunks.length < N) (t : Text) :
    (limited N fault chunks).put t = .ok (limited N fault (chunks ++ [t])) := by
  have hleft : N - chunks.length = N - (chunks ++ [t]).length + 1 := by
    rw [List.length_append, List.length_singleton]
    omega
  have hnow : chunks.take N = chunks := List.take_of_length_le (by omega)
  have hthen : (chunks ++ [t]).take N = chunks ++ [t] := by
    apply List.take_of_length_le
    rw [List.length_append, List.length_singleton]
    omega
  rw [limited, limited, hnow, hthen, hleft]
  rfl

theorem put_limited_of_le (h : N ≤ chunks.length) (t : Text) :
    (limited N fault chunks).put t = .error (.system fault) := by
  rw [limited, Nat.sub_eq_zero_of_le h]
  rfl

theorem limited_append_of_le (h : N ≤ chunks.length) : limited N fault (chunks ++ ts) = limited N fault chunks := by
  rw [limited, limited, List.take_append_of_le_length h, List.length_append, Nat.sub_eq_zero_of_le h,
    Nat.sub_eq_zero_of_le (by omega)]

/-- The sink fails if one of the chunks is past the budget. -/
theorem putAll_limited : (limited N fault chunks).putAll ts =
    (limited N fault (chunks ++ ts),
      if ts ≠ [] ∧ N < (chunks ++ ts).length then some (.system fault) else none) := by
  induction ts generalizing chunks with
  | nil => rw [putAll, List.append_nil, if_neg fun h => h.1 rfl]
  | cons t ts ih =>
    rw [putAll]
    by_cases h : chunks.length < N
    · -- the first chunk is within the budget, so that one past it is among the others
      have hpast : (ts ≠ [] ∧ N < (chunks ++ t :: ts).length) ↔ (t :: ts ≠ [] ∧ N < (chunks ++ t :: ts).length) := by
        cases ts with
        | nil =>
          rw [List.length_append, List.length_singleton]
          simp only [ne_eq, not_true_eq_false, false_and, List.cons_ne_nil, not_false_eq_true, true_and, false_iff]
          omega
        | cons => simp only [ne_eq, List.cons_ne_nil, not_false_eq_true, true_and]
      rw [put_limited_of_lt h]
      simp only [ih, List.append_assoc, List.singleton_append, hpast]
    · have h : N ≤ chunks.length := by omega
      have hpast : N < (chunks ++ t :: ts).length := by
        rw [List.length_append, List.length_cons]
        omega
      rw [put_limited_of_le h, limited_append_of_le h, if_pos ⟨List.cons_ne_nil _ _, hpast⟩]

theorem putAll_free : (free chunks).putAll ts = (free (chunks ++ ts), none) :=
  putAll_unfailing ⟨rfl, rfl⟩ ts

end Sink

namespace Formatter

variable {f : Formatter} {σ : Store} {schema : Schema} {s next : WriteStep} {steps : List WriteStep}
  {N : Nat} {fault : SystemFault} {chunks : List Text}

/-- The rows that the records of a step supply themselves hold texts, where such rows are used. -/
def StepSuppliesTexts (f : Formatter) (σ : Store) (schema : Schema) (s : WriteStep) : Prop :=
  (f.selecting s.selector).SuppliesTexts σ schema s.handover.records

/-- The document of a step, or the fault that keeps its records from being encoded. -/
def stepEncoded (f : Formatter) (σ : Store) (schema : Schema) (s : WriteStep) : Except Fault (List Text) :=
  (f.selecting s.selector).encoded σ schema s.handover.records

/-- The chunks that a step makes: none where its records cannot be encoded. -/
def made (f : Formatter) (σ : Store) (schema : Schema) (s : WriteStep) : List Text :=
  match f.stepEncoded σ schema s with
  | .ok ts => ts
  | .error _ => []

/-- The fault that a step comes to by itself. -/
def ownFault? (f : Formatter) (σ : Store) (schema : Schema) (s : WriteStep) : Option WriteFault :=
  match f.stepEncoded σ schema s with
  | .ok _ => none
  | .error e => some (.record e)

/-- What a step leaves of its records. -/
def leftOf (f : Formatter) (s : WriteStep) : Handover :=
  if (f.selecting s.selector).format?.isSome then s.handover.taken else s.handover

theorem made_isDocument (htexts : f.StepSuppliesTexts σ schema s) :
    (f.selecting s.selector).IsDocument σ schema s.handover.records (f.made σ schema s) ∨
      f.made σ schema s = [] ∧ ∃ e, f.stepEncoded σ schema s = .error e := by
  unfold made
  cases h : f.stepEncoded σ schema s with
  | ok ts => exact .inl (isDocument_of_encoded htexts h)
  | error e => exact .inr ⟨rfl, e, rfl⟩

/-- A step puts the chunks that it makes. -/
theorem step_eq (htexts : f.StepSuppliesTexts σ schema s) (sink : Sink) :
    f.step σ schema s (.opened sink) =
      ⟨.opened (sink.putAll (f.made σ schema s)).1, f.leftOf s,
        ((sink.putAll (f.made σ schema s)).2.map .stream).or (f.ownFault? σ schema s)⟩ := by
  have hstep : f.step σ schema s (.opened sink) =
      ⟨.opened ((f.selecting s.selector).write σ schema s.handover.records sink).1, f.leftOf s,
        ((f.selecting s.selector).write σ schema s.handover.records sink).2⟩ := rfl
  rw [hstep, write_eq htexts]
  unfold made ownFault? stepEncoded
  cases (f.selecting s.selector).encoded σ schema s.handover.records with
  | error e => rfl
  | ok ts =>
    show StepOutcome.mk _ _ _ = StepOutcome.mk _ _ _
    rw [Option.or_none]

theorem step_unlimited (htexts : f.StepSuppliesTexts σ schema s) :
    f.step σ schema s (.opened (.free chunks)) =
      ⟨.opened (.free (chunks ++ f.made σ schema s)), f.leftOf s, f.ownFault? σ schema s⟩ := by
  rw [step_eq htexts, Sink.putAll_free]
  rfl

theorem step_limited (htexts : f.StepSuppliesTexts σ schema s) :
    f.step σ schema s (.opened (.limited N fault chunks)) =
      ⟨.opened (.limited N fault (chunks ++ f.made σ schema s)), f.leftOf s,
        if f.made σ schema s ≠ [] ∧ N < (chunks ++ f.made σ schema s).length then some (.stream (.system fault))
        else f.ownFault? σ schema s⟩ := by
  rw [step_eq htexts, Sink.putAll_limited]
  split <;> rfl

theorem run_unlimited (htexts : ∀ s ∈ steps, f.StepSuppliesTexts σ schema s) :
    f.run σ schema steps (.opened (.free chunks)) = .opened (.free (chunks ++ steps.flatMap (f.made σ schema))) := by
  induction steps generalizing chunks with
  | nil => rw [List.flatMap_nil, List.append_nil]; rfl
  | cons s steps ih =>
    have hhead := htexts s List.mem_cons_self
    have htail := fun s hs => htexts s (List.mem_cons_of_mem _ hs)
    rw [run, List.foldl_cons, step_unlimited hhead, List.flatMap_cons, ← List.append_assoc]
    exact ih htail

theorem run_limited (htexts : ∀ s ∈ steps, f.StepSuppliesTexts σ schema s) :
    f.run σ schema steps (.opened (.limited N fault chunks)) =
      .opened (.limited N fault (chunks ++ steps.flatMap (f.made σ schema))) := by
  -- on the steps, for whatever has been handed to the stream before, within the budget or past it
  induction steps generalizing chunks with
  | nil => rw [List.flatMap_nil, List.append_nil]; rfl
  | cons s steps ih =>
    have hhead := htexts s List.mem_cons_self
    have htail := fun s hs => htexts s (List.mem_cons_of_mem _ hs)
    rw [run, List.foldl_cons, step_limited hhead, List.flatMap_cons, ← List.append_assoc]
    exact ih htail

/-- A run on a stream that takes `N` chunks and then fails, and one more step after it, against the same run on a
stream that never fails. The one stream has the first `N` chunks of the other, which are the documents of the steps;
the next step raises the fault of the stream exactly if it makes a chunk past the `N`th, and else does what it does on
the other stream; and the stream is never closed. -/
theorem run_prefix (htexts : ∀ s ∈ steps ++ [next], f.StepSuppliesTexts σ schema s) (N : Nat) (fault : SystemFault) :
    let free := f.run σ schema steps (.opened .unlimited)
    let failing := f.run σ schema steps (.opened (.failing N fault))
    let made := f.made σ schema
    failing.sink.text = (free.sink.chunks.take N).flatten ∧
    free.sink.chunks = steps.flatMap made ∧
    (∀ s ∈ steps ++ [next], (f.selecting s.selector).IsDocument σ schema s.handover.records (made s) ∨
      made s = [] ∧ ∃ e, f.stepEncoded σ schema s = .error e) ∧
    ((f.step σ schema next failing).fault = some (.stream (.system fault)) ↔
      made next ≠ [] ∧ N < free.sink.chunks.length + (made next).length) ∧
    ((f.step σ schema next failing).fault ≠ some (.stream (.system fault)) →
      (f.step σ schema next failing).fault = (f.step σ schema next free).fault) ∧
    (made next = [] → f.step σ schema next failing =
      ⟨failing, (f.step σ schema next free).left, (f.step σ schema next free).fault⟩) ∧
    failing.closed = false := by
  intro free failing made
  have hsteps : ∀ s ∈ steps, f.StepSuppliesTexts σ schema s :=
    fun s hs => htexts s (List.mem_append_left _ hs)
  have hnext : f.StepSuppliesTexts σ schema next := htexts next (List.mem_append_right _ List.mem_cons_self)
  have hfree : free = .opened (.free (steps.flatMap made)) := run_unlimited hsteps
  have hfailing : failing = .opened (.limited N fault (steps.flatMap made)) := by
    show f.run σ schema steps (.opened (.failing N fault)) = _
    rw [← Sink.limited_nil]
    exact run_limited hsteps
  -- only the stream can come to this fault, not the records of a step
  have hown : f.ownFault? σ schema next ≠ some (.stream (.system fault)) := by
    unfold ownFault?
    cases f.stepEncoded σ schema next <;> simp
  rw [hfree, hfailing, step_limited hnext, step_unlimited hnext]
  refine ⟨rfl, rfl, fun s hs => made_isDocument (htexts s hs), ?_, ?_, ?_, rfl⟩
  · show (if _ then _ else _) = _ ↔ _
    rw [List.length_append]
    split
    · rename_i hpast
      exact iff_of_true rfl hpast
    · rename_i hpast
      exact iff_of_false hown hpast
  · show (if _ then _ else _) ≠ _ → (if _ then _ else _) = _
    intro hfault
    split at hfault
    · exact absurd rfl hfault
    · rename_i hpast
      rw [if_neg hpast]
  · intro hnone
    have hnone : f.made σ schema next = [] := hnone
    rw [hnone, List.append_nil, if_neg fun h => h.1 rfl]

/-- A table of the first purse, a table that cannot be encoded, and nothing. -/
def purseSteps : List WriteStep :=
  [⟨some " CSV ", .list [.object 0]⟩, ⟨some "csv", .iterator [.object 0, .object 1]⟩, ⟨none, .list [.object 0]⟩]

/-- Another table of the first purse. -/
def purseStep : WriteStep := ⟨some "csv", .iterator [.object 0]⟩

/-- The fault of a device that is full. -/
def fullDevice : SystemFault := ⟨SystemFault.noSpace, "No space left on device", none⟩

theorem run_prefix_purses :
    (∀ s ∈ purseSteps ++ [purseStep], (purseFormatter none).StepSuppliesTexts purses purseSchema s) ∧
      ((purseFormatter none).run purses purseSchema purseSteps (.opened (.failing 1 fullDevice))).sink.text =
        "Amount\n" ∧
      ((purseFormatter none).step purses purseSchema purseStep
        ((purseFormatter none).run purses purseSchema purseSteps (.opened (.failing 1 fullDevice)))).fault =
          some (.stream (.system fullDevice)) := by
  have htexts : ∀ s ∈ purseSteps ++ [purseStep], (purseFormatter none).StepSuppliesTexts purses purseSchema s := by
    intro s hs
    refine purseFormatter_suppliesTexts ?_
    revert s
    decide
  obtain ⟨htext, hchunks, -, hfault, -⟩ := run_prefix htexts 1 fullDevice
  have hsteps : purseSteps.flatMap ((purseFormatter none).made purses purseSchema) = ["Amount\n", "5\n"] := rfl
  have hstep : (purseFormatter none).made purses purseSchema purseStep = ["Amount\n", "5\n"] := rfl
  refine ⟨htexts, ?_, ?_⟩
  · rw [htext, hchunks, hsteps]
    rfl
  · rw [hfault, hchunks, hsteps, hstep]
    decide

end Formatter

end RecordPrint
