import Mathlib.Logic.Relation
import RecordPrint.Json.Records
import RecordPrint.Proofs.Text.Lines

/-!
# Line ends and blank lines

Between the lines of a text of records, line ends can be exchanged and blank lines put in.

* `Text.Relined` — one such change;
* `Text.contentLines_relined` — it leaves the lines with content as they are;
* `readRecords_congr` — what is read from a text that is no array depends on its lines with content only;
* `readRecords_relined` — so any number of such changes leaves what is read as it is, records and faults alike.
-/

namespace RecordPrint

namespace Text

/-- What ends a line: a boundary, or a carriage return with the line feed behind it. -/
inductive IsLineEnd : Text → Prop where
  | boundary {c : CodePoint} : c.endsLine = true → IsLineEnd [c]
  | pair : IsLineEnd [.char '\r', .char '\n']

/-- A change of a text between its lines. -/
inductive Relined : Text → Text → Prop where
  /-- One line end for another. -/
  | exchange (before e e' behind : Text) : IsLineEnd e → IsLineEnd e' →
    Relined (before ++ e ++ behind) (before ++ e' ++ behind)
  /-- One more blank line at the start of the text or behind a line end. -/
  | lineBehind (before blank e behind : Text) : (before = [] ∨ ∃ s e, IsLineEnd e ∧ before = s ++ e) →
    blank.isBlank = true → IsLineEnd e → Relined (before ++ behind) (before ++ (blank ++ e) ++ behind)
  /-- One more blank line at the end of the text or in front of a line end. -/
  | lineInFront (before e blank behind : Text) : (behind = [] ∨ ∃ e s, IsLineEnd e ∧ behind = e ++ s) →
    blank.isBlank = true → IsLineEnd e → Relined (before ++ behind) (before ++ (e ++ blank) ++ behind)

theorem IsLineEnd.contentLines_append {e : Text} (he : e.IsLineEnd) (s t : Text) :
    contentLines (s ++ e ++ t) = contentLines s ++ contentLines t := by
  cases he with
  | boundary hc => rw [List.append_assoc, List.singleton_append, contentLines_append_cons hc]
  | pair =>
    rw [List.append_assoc, List.cons_append, List.singleton_append, contentLines_append_cons rfl, contentLines_newline]

theorem contentLines_relined {t u : Text} (h : t.Relined u) : contentLines u = contentLines t := by
  cases h with
  | exchange before e e' behind he he' => rw [he.contentLines_append, he'.contentLines_append]
  | lineBehind before blank e behind hstart hblank he =>
    have hline : contentLines (blank ++ e ++ behind) = contentLines behind := by
      rw [he.contentLines_append, contentLines_eq_nil_iff.2 hblank, List.nil_append]
    rw [List.append_assoc]
    rcases hstart with rfl | ⟨s, e', he', rfl⟩
    · exact hline
    · rw [he'.contentLines_append, he'.contentLines_append, hline]
  | lineInFront before e blank behind hend hblank he =>
    have hline : contentLines (before ++ (e ++ blank)) = contentLines before := by
      rw [← List.append_assoc, he.contentLines_append, contentLines_eq_nil_iff.2 hblank, List.append_nil]
    rcases hend with rfl | ⟨e', s, he', rfl⟩
    · rw [List.append_nil, List.append_nil, hline]
    · rw [← List.append_assoc _ e' s, he'.contentLines_append, hline, ← List.append_assoc, he'.contentLines_append]

/-- Any number of changes between the lines leave the lines with content as they are. -/
theorem contentLines_relined_all {t u : Text} (h : Relation.ReflTransGen Relined t u) :
    contentLines u = contentLines t := by
  induction h with
  | refl => rfl
  | tail _ hstep ih => rw [contentLines_relined hstep, ih]

/-- The first code point that is no blank stands in a line with content. -/
theorem find?_congr {t u : Text} (h : contentLines t = contentLines u) :
    (t.find? fun c => !c.isBlank) = u.find? fun c => !c.isBlank := by
  rw [← List.head?_filter, ← filter_contentLines, h, filter_contentLines, List.head?_filter]

end Text

namespace Json

open Text (contentLines)

/-- What is read from a text that is no array depends on its lines with content only. -/
theorem readRecords_congr {t u : Text} (hfirst : (t.find? fun c => !c.isBlank) ≠ some (.char '['))
    (h : contentLines t = contentLines u) : readRecords t = readRecords u := by
  have hlines : ∀ s : Text, (s.find? fun c => !c.isBlank) ≠ some (.char '[') →
      readItems? s.trim = (contentLines s.trim).mapM readText := by
    intro s hs
    have hlayout : inputLayout s.trim = .lines := by rw [inputLayout, Text.head?_trim, if_neg hs]
    rw [readItems?, hlayout]
    rfl
  have hblank : t.trim = [] ↔ u.trim = [] := by
    rw [Text.trim_eq_nil_iff, Text.trim_eq_nil_iff, ← Text.contentLines_eq_nil_iff, h, Text.contentLines_eq_nil_iff]
  rw [readRecords, readRecords, hlines t hfirst, hlines u (Text.find?_congr h ▸ hfirst), Text.contentLines_trim_congr h]
  simp only [hblank]

/-- Blank lines and line ends do not matter in a text that is no array: where any number of line ends are exchanged and
blank lines put in, the same records are read, or the text is refused for the same fault, with the same number of the
record, or at the same place of the same line. -/
theorem readRecords_relined {t u : Text} (hfirst : (t.find? fun c => !c.isBlank) ≠ some (.char '['))
    (h : Relation.ReflTransGen Text.Relined t u) : readRecords u = readRecords t :=
  (readRecords_congr hfirst (Text.contentLines_relined_all h).symm).symm

/-- A line with an object and a line with an array that is not closed. -/
def brokenLines : Text := "\x7b\x7d\n[1\x7d"

/-- The same lines with a carriage return between them, and a blank line in front of each. -/
def spacedBrokenLines : Text := "\u3000\r\n\x7b\x7d\r \n[1\x7d"

theorem readRecords_relined_brokenLines :
    (brokenLines.find? fun c => !c.isBlank) ≠ some (.char '[') ∧
      Relation.ReflTransGen Text.Relined brokenLines spacedBrokenLines ∧
      readRecords spacedBrokenLines = .error (.json "[1\x7d" (.malformed .comma 2)) := by
  have hfirst : (brokenLines.find? fun c => !c.isBlank) ≠ some (.char '[') := by decide
  have hfeed : Text.IsLineEnd "\n" := .boundary rfl
  have hreturn : Text.IsLineEnd "\r" := .boundary rfl
  have hexchange : Text.Relined brokenLines "\x7b\x7d\r[1\x7d" :=
    .exchange "\x7b\x7d" "\n" "\r" "[1\x7d" hfeed hreturn
  have hbetween : Text.Relined "\x7b\x7d\r[1\x7d" "\x7b\x7d\r \n[1\x7d" :=
    .lineBehind "\x7b\x7d\r" " " "\n" "[1\x7d" (.inr ⟨"\x7b\x7d", "\r", hreturn, rfl⟩) rfl hfeed
  have hstart : Text.Relined "\x7b\x7d\r \n[1\x7d" spacedBrokenLines :=
    .lineBehind "" "\u3000" "\r\n" "\x7b\x7d\r \n[1\x7d" (.inl rfl) rfl .pair
  have hrelined : Relation.ReflTransGen Text.Relined brokenLines spacedBrokenLines :=
    ((Relation.ReflTransGen.single hexchange).tail hbetween).tail hstart
  have hread : readRecords brokenLines = .error (.json "[1\x7d" (.malformed .comma 2)) := by with_unfolding_all rfl
  exact ⟨hfirst, hrelined, (readRecords_relined hfirst hrelined).trans hread⟩

end Json

end RecordPrint
