import RecordPrint.Text.Case

/-!
# Small letters of ASCII

Which texts have a small form that holds letters of ASCII only. Outside ASCII there is one capital with a small letter
in ASCII, the Kelvin sign, and one whose small form begins with such a letter, the dotted capital I.

* `CodePoint.small_cases` — the small form of a code point is its small letter of ASCII, or not made of such letters;
* `Text.lower_eq_iff` — so a word of them, none of which is a k, is the small form of the texts that are this word but
  for the case of letters of ASCII.
-/

namespace RecordPrint

namespace CodePoint

/-- The small letter in place of a capital of ASCII; any other code point stays. -/
def asciiSmall (c : CodePoint) : CodePoint :=
  if 0x41 ≤ c.toNat ∧ c.toNat ≤ 0x5A then .ofNat (c.toNat + 32) else c

/-- A small letter of ASCII other than k. -/
def IsPlainSmall (c : CodePoint) : Prop := 0x61 ≤ c.toNat ∧ c.toNat ≤ 0x7A ∧ c.toNat ≠ 0x6B

instance (c : CodePoint) : Decidable c.IsPlainSmall := inferInstanceAs (Decidable (_ ∧ _ ∧ _))

/-- The code point of a number has this number, unless there is none, and then it is zero. -/
theorem toNat_ofNat (n : Nat) : (ofNat n).toNat = n ∨ (ofNat n).toNat = 0 := by
  unfold ofNat
  split
  · left
    simp only [toNat]
    omega
  · by_cases hvalid : n.isValidChar
    · left
      rw [Char.ofNat, dif_pos hvalid]
      rfl
    · right
      rw [Char.ofNat, dif_neg hvalid]
      rfl

theorem not_isPlainSmall_ofNat {n : Nat} (h : 0x80 ≤ n) : ¬ (ofNat n).IsPlainSmall := by
  unfold IsPlainSmall
  rcases toNat_ofNat n with hn | hn <;> omega

theorem asciiSmall_of_le {c : CodePoint} (h : 0x80 ≤ c.toNat) : c.asciiSmall = c ∧ ¬ c.IsPlainSmall := by
  refine ⟨if_neg (by omega), ?_⟩
  unfold IsPlainSmall
  omega

theorem bounds_of_contains {r : CapitalRun} {n : Nat} (h : r.contains n = true) : r.first ≤ n ∧ n ≤ r.last := by
  simp only [CapitalRun.contains, Bool.and_eq_true, decide_eq_true_eq] at h
  exact h.1

/-- The capitals of ASCII. -/
def asciiRun : CapitalRun := ⟨0x41, 0x5A, 1, 32⟩

/-- The Kelvin sign. -/
def kelvinRun : CapitalRun := ⟨0x212A, 0x212A, 1, -8383⟩

/-- All other capitals stand outside ASCII, and so do their small letters. -/
theorem outside_of_mem_capitalRuns : ∀ r ∈ capitalRuns,
    r = asciiRun ∨ 0x80 ≤ r.first ∧ (r = kelvinRun ∨ 0x80 ≤ (r.first : Int) + r.shift) := by
  decide +kernel

theorem contains_asciiRun {n : Nat} : asciiRun.contains n = true ↔ 0x41 ≤ n ∧ n ≤ 0x5A := by
  show (decide (0x41 ≤ n) && decide (n ≤ 0x5A) && (n - 0x41) % 1 == 0) = true ↔ _
  simp [Nat.mod_one]

/-- The small form of a code point is its small letter of ASCII, or something that does not consist of plain small
letters, and then the code point stands outside ASCII. -/
theorem small_cases (c : CodePoint) :
    c.small = [c.asciiSmall] ∨ (∃ d ∈ c.small, ¬ d.IsPlainSmall) ∧ 0x80 ≤ c.toNat := by
  unfold small
  split
  · rename_i hdotted
    exact .inr ⟨⟨.char '\u0307', by simp, by decide⟩, by omega⟩
  · cases hfind : capitalRuns.find? (·.contains c.toNat) with
    | none =>
      left
      have hascii := List.find?_eq_none.1 hfind asciiRun (by decide)
      rw [contains_asciiRun] at hascii
      rw [asciiSmall, if_neg hascii]
    | some r =>
      have hfound := List.find?_some hfind
      have hcontains : r.contains c.toNat = true := hfound
      obtain ⟨hfirst, hlast⟩ := bounds_of_contains hcontains
      rcases outside_of_mem_capitalRuns r (List.mem_of_find?_eq_some hfind) with rfl | ⟨houtside, hsmall⟩
      · left
        rw [asciiSmall, if_pos (contains_asciiRun.1 hcontains)]
        rfl
      · right
        refine ⟨⟨_, List.mem_singleton_self _, ?_⟩, by omega⟩
        rcases hsmall with rfl | hsmall
        · have hkelvin : c.toNat = 0x212A := Nat.le_antisymm hlast hfirst
          rw [hkelvin]
          decide
        · exact not_isPlainSmall_ofNat (by omega)

end CodePoint

namespace Text

open CodePoint (asciiSmall IsPlainSmall)

/-- The small form of a code point of a text, by what stands around it. -/
theorem lowerBehind_cons (before : Text) (c : CodePoint) (t : Text) : ∃ s : Text,
    lowerBehind before (c :: t) = s ++ lowerBehind (c :: before) t ∧
      (s = [c.asciiSmall] ∨ (∃ d ∈ s, ¬ d.IsPlainSmall) ∧ ¬ c.asciiSmall.IsPlainSmall) := by
  refine ⟨_, lowerBehind.eq_2 before c t, ?_⟩
  split
  · rename_i hsigma
    subst hsigma
    right
    split <;> exact ⟨⟨_, List.mem_singleton_self _, by decide⟩, by decide⟩
  · refine c.small_cases.imp_right fun ⟨hsmall, houtside⟩ => ⟨hsmall, ?_⟩
    obtain ⟨hself, hplain⟩ := CodePoint.asciiSmall_of_le houtside
    rwa [hself]

theorem lowerBehind_eq_iff {before t w : Text} (hw : ∀ d ∈ w, d.IsPlainSmall) :
    lowerBehind before t = w ↔ t.map asciiSmall = w := by
  induction t generalizing before w with
  | nil => rfl
  | cons c t ih =>
    obtain ⟨s, hs, hcases⟩ := lowerBehind_cons before c t
    rw [hs, List.map_cons]
    rcases hcases with rfl | ⟨⟨d, hd, hplain⟩, hc⟩
    · rw [List.singleton_append]
      cases w with
      | nil => simp
      | cons e w => rw [List.cons.injEq, List.cons.injEq, ih fun d hd => hw d (List.mem_cons_of_mem _ hd)]
    · -- neither side is made of plain small letters
      refine iff_of_false (fun heq => hplain (hw d ?_)) fun heq => hc (hw _ ?_)
      · rw [← heq]
        exact List.mem_append_left _ hd
      · rw [← heq]
        exact List.mem_cons_self

/-- A word of small letters of ASCII without a k is the small form of the texts that differ from it in nothing but the
case of letters of ASCII. -/
theorem lower_eq_iff {t w : Text} (hw : ∀ d ∈ w, d.IsPlainSmall) : t.lower = w ↔ t.map asciiSmall = w :=
  lowerBehind_eq_iff hw

end Text

end RecordPrint
