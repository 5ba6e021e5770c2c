import RecordPrint.Json.Plain
import RecordPrint.Json.Reader
import Mathlib.Tactic.IntervalCases

/-!
# Strings in JSON texts

A code point that is written as an escape is read back from it, and any other one from itself, so the reader gives
back the text of a quoted string.
-/

namespace RecordPrint

namespace Json

theorem ofNat_toNat {c : CodePoint} (h : c.toNat < 0xD800) : CodePoint.ofNat c.toNat = c := by
  cases c with
  | surrogate u => exact absurd h (Nat.not_lt.2 (Nat.le_add_right _ _))
  | char c =>
    have hno : ¬ (0xD800 ≤ c.toNat ∧ c.toNat < 0xE000) := fun hc => absurd h (Nat.not_lt.2 hc.1)
    rw [CodePoint.ofNat, CodePoint.toNat, dif_neg hno, Char.ofNat_toNat]

/-- A control character is read back from its number. -/
theorem readString_control (start i : Nat) {n : Nat} (hn : n < 0x20) {u : Text} (hu : u ≠ []) :
    readString start i (.char '\\' :: .char 'u' :: (hexText 4 n ++ u)) =
      andThen (.ofNat n) (readString start (i + 6) u) := by
  cases u with
  | nil => exact absurd rfl hu
  | cons e u =>
    have hfour : ∃ a b c d, hexText 4 n = [a, b, c, d] ∧ hexFour? a b c d = some n := by
      interval_cases n <;> exact ⟨_, _, _, _, rfl, by decide⟩
    obtain ⟨a, b, c, d, htext, hvalue⟩ := hfour
    have hhigh : isHigh n = false := by
      simp [isHigh]
      omega
    rw [htext]
    simp only [List.cons_append, List.nil_append]
    rw [readString, hvalue]
    simp [hhigh]

/-- A code point is read back from its letter. -/
theorem readString_letter {start i : Nat} {l c : CodePoint} (hl : unescaped? l = some c) (u : Text) :
    readString start i (.char '\\' :: l :: u) = andThen c (readString start (i + 2) u) := by
  have hu : l ≠ .char 'u' := by
    rintro rfl
    cases hl
  rw [readString]
  · rw [hl]
  · intro a b c d e rest h
    exact absurd h hu
  · exact hu

theorem readString_self {start i : Nat} {c : CodePoint} (hquote : c ≠ .char '"') (hback : c ≠ .char '\\')
    (hcontrol : ¬ c.toNat < 0x20) (u : Text) :
    readString start i (c :: u) = andThen c (readString start (i + 1) u) := by
  rw [readString]
  · rw [if_neg hcontrol]
  · exact hquote
  all_goals (intros; contradiction)

/-- A code point is read back from what is written for it. -/
theorem readString_escaped (start i : Nat) (c : CodePoint) {u : Text} (hu : u ≠ []) :
    readString start i (escaped c ++ u) = andThen c (readString start (i + (escaped c).length) u) := by
  unfold escaped
  split_ifs with hquote hback hline hreturn htab hfeed hbell hcontrol
  · exact hquote ▸ readString_letter rfl u
  · exact hback ▸ readString_letter rfl u
  · exact hline ▸ readString_letter rfl u
  · exact hreturn ▸ readString_letter rfl u
  · exact htab ▸ readString_letter rfl u
  · exact hfeed ▸ readString_letter rfl u
  · exact hbell ▸ readString_letter rfl u
  · have h := readString_control start i hcontrol hu
    rw [ofNat_toNat (by omega)] at h
    exact h
  · exact readString_self hquote hback hcontrol u

theorem quote_append (t rest : Text) : quote t ++ rest = .char '"' :: (t.flatMap escaped ++ .char '"' :: rest) := by
  simp [quote]

theorem length_quote (t : Text) : (quote t).length = (t.flatMap escaped).length + 2 := by
  simp [quote]

theorem readString_flatMap (start i : Nat) (t rest : Text) :
    readString start i (t.flatMap escaped ++ .char '"' :: rest) =
      .ok (t, ⟨rest, i + (t.flatMap escaped).length + 1⟩) := by
  induction t generalizing i with
  | nil => simp [readString]
  | cons c t ih =>
    rw [List.flatMap_cons, List.append_assoc, readString_escaped start i c (by simp), ih, List.length_append,
      ← Nat.add_assoc]
    rfl

/-- Behind its opening quote, the reader gives back the text of a quoted string. -/
theorem readString_quote (i : Nat) (t rest : Text) :
    readString i (i + 1) (t.flatMap escaped ++ .char '"' :: rest) = .ok (t, ⟨rest, i + (quote t).length⟩) := by
  have hlength : i + 1 + (t.flatMap escaped).length + 1 = i + (quote t).length := by
    rw [length_quote]
    omega
  rw [readString_flatMap, hlength]

end Json

end RecordPrint
