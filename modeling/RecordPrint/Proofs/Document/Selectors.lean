import RecordPrint.Document.Run
import RecordPrint.Proofs.Text.Case
import RecordPrint.Proofs.Text.Trimming

/-!
# Selectors

Which texts select a format, and what a step does without one.

* `Format.ofSelector?_eq_some_iff` — a format is selected by its name in small or capital letters of ASCII, with blanks
  around it;
* `Formatter.step_selected` — and a step with any other selector leaves the stream and the records as they are.
-/

namespace RecordPrint

open CodePoint (asciiSmall IsPlainSmall)

/-- What becomes a small letter of ASCII is no blank. -/
theorem CodePoint.isBlank_of_asciiSmall {c : CodePoint} (h : c.asciiSmall.IsPlainSmall) : c.isBlank = false := by
  have hrange : 0x41 ≤ c.toNat ∧ c.toNat ≤ 0x7A := by
    unfold asciiSmall at h
    split at h
    · omega
    · unfold IsPlainSmall at h
      omega
  rw [Bool.eq_false_iff]
  intro hblank
  simp only [isBlank, inRanges, blankRanges, List.any_cons, List.any_nil, Bool.or_eq_true, Bool.and_eq_true,
    decide_eq_true_eq, Bool.false_eq_true, or_false] at hblank
  omega

/-- A text that becomes a word of small letters of ASCII neither begins nor ends with a blank. -/
theorem Text.isTrimmed_of_asciiSmall {t : Text} (hne : t ≠ []) (h : ∀ c ∈ t.map asciiSmall, c.IsPlainSmall) :
    t.IsTrimmed := by
  have hblank : ∀ c ∈ t, c.isBlank = false :=
    fun c hc => CodePoint.isBlank_of_asciiSmall (h _ (List.mem_map_of_mem hc))
  exact ⟨⟨t.head hne, List.head?_eq_some_head hne, hblank _ (List.head_mem hne)⟩,
    ⟨t.getLast hne, List.getLast?_eq_some_getLast hne, hblank _ (List.getLast_mem hne)⟩⟩

namespace Format

/-- The names of the formats are words of small letters of ASCII, none of which is a k. -/
theorem isPlainSmall_name (f : Format) : ∀ c ∈ f.name, c.IsPlainSmall := by
  cases f <;> decide

theorem name_ne_nil (f : Format) : f.name ≠ [] := by
  cases f <;> decide

theorem ofSelector?_eq_key_iff {selector : Option Text} {f : Format} :
    ofSelector? selector = some f ↔ key selector = f.name := by
  unfold ofSelector?
  constructor
  · intro h
    have hname := List.find?_some h
    exact (of_decide_eq_true hname).symm
  · intro h
    rw [h]
    cases f <;> decide

/-- A format is selected by its name in small or capital letters of ASCII, with blanks around it, and by nothing else. -/
theorem ofSelector?_eq_some_iff {selector : Option Text} {f : Format} : ofSelector? selector = some f ↔
    ∃ a w b : Text, selector = some (a ++ w ++ b) ∧ a.isBlank = true ∧ b.isBlank = true ∧
      w.map asciiSmall = f.name := by
  rw [ofSelector?_eq_key_iff, key, Text.lower_eq_iff f.isPlainSmall_name]
  constructor
  · intro h
    cases selector with
    | none => exact absurd h.symm f.name_ne_nil
    | some t =>
      obtain ⟨a, b, ha, hb, hsplit⟩ := Text.exists_trim t
      exact ⟨a, t.trim, b, congrArg some hsplit, ha, hb, h⟩
  · rintro ⟨a, w, b, rfl, ha, hb, hw⟩
    have hne : w ≠ [] := by
      rintro rfl
      exact f.name_ne_nil hw.symm
    have htrimmed : w.IsTrimmed := Text.isTrimmed_of_asciiSmall hne (hw ▸ f.isPlainSmall_name)
    rw [Option.getD_some, Text.trim_append ha hb htrimmed, hw]

end Format

namespace Formatter

/-- A step without a format leaves the stream and the records as they are. -/
theorem step_of_format?_eq_none {f : Formatter} {s : WriteStep} (h : (f.selecting s.selector).format? = none) (σ : Store)
    (schema : Schema) (stream : Stream) : f.step σ schema s stream = ⟨stream, s.handover, none⟩ := by
  have hwrite : (f.selecting s.selector).write σ schema s.handover.records stream.sink = (stream.sink, none) := by
    rw [write, chunks, h]
    rfl
  simp only [step, hwrite, h]
  rfl

/-- A format is selected by a text exactly if the text is its name in small or capital letters of ASCII, with blanks
around it. With any other selector, or none, a step writes nothing to the stream, whatever the stream is, comes to no
fault, whatever the records are, and leaves them as they are handed over. -/
theorem step_selected (f : Formatter) (selector : Option Text) :
    (∀ format, (f.selecting selector).format? = some format ↔
      ∃ a w b : Text, selector = some (a ++ w ++ b) ∧ a.isBlank = true ∧ b.isBlank = true ∧
        w.map asciiSmall = format.name) ∧
    ((¬ ∃ (format : Format) (a w b : Text), selector = some (a ++ w ++ b) ∧ a.isBlank = true ∧ b.isBlank = true ∧
        w.map asciiSmall = format.name) →
      ∀ (σ : Store) (schema : Schema) (handover : Handover) (stream : Stream),
        f.step σ schema ⟨selector, handover⟩ stream = ⟨stream, handover, none⟩) := by
  have hselected : ∀ format, (f.selecting selector).format? = some format ↔ _ := fun _ => Format.ofSelector?_eq_some_iff
  refine ⟨hselected, fun hother σ schema handover stream => ?_⟩
  refine step_of_format?_eq_none ?_ σ schema stream
  rw [Option.eq_none_iff_forall_ne_some]
  intro format hformat
  exact hother ⟨format, (hselected format).1 hformat⟩

/-- The name of a format in letters of full width, which have small forms outside ASCII. -/
def wideSelector : Text := "\uff23\uff33\uff36"

/-- A list that holds nothing but itself. -/
def ownItem : Store := #[.sequence .list [.object 0]]

/-- A stream that takes nothing. -/
def fullStream : Stream := .opened (.failing 0 ⟨SystemFault.noSpace, "No space left on device", none⟩)

theorem step_selected_wide :
    (¬ ∃ (format : Format) (a w b : Text), some wideSelector = some (a ++ w ++ b) ∧ a.isBlank = true ∧
        b.isBlank = true ∧ w.map asciiSmall = format.name) ∧
      (⟨none, none, none⟩ : Formatter).step ownItem [] ⟨some wideSelector, .iterator [.object 0]⟩ fullStream =
        ⟨fullStream, .iterator [.object 0], none⟩ := by
  obtain ⟨hselected, hstep⟩ := step_selected ⟨none, none, none⟩ (some wideSelector)
  have hother : ¬ ∃ (format : Format) (a w b : Text), some wideSelector = some (a ++ w ++ b) ∧ a.isBlank = true ∧
      b.isBlank = true ∧ w.map asciiSmall = format.name := by
    rintro ⟨format, hformat⟩
    have hnone : Format.ofSelector? (some wideSelector) = none := by decide +kernel
    have hsome : Format.ofSelector? (some wideSelector) = some format := (hselected format).2 hformat
    rw [hnone] at hsome
    cases hsome
  exact ⟨hother, hstep hother ownItem [] (.iterator [.object 0]) fullStream⟩

end Formatter

end RecordPrint
