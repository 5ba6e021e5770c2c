import RecordPrint.Text.Blank
import Mathlib.Data.List.TakeWhile

/-!
# Pieces of texts

* `splitOnPoint_eq_pair_iff` — the texts that are cut into two pieces;
* `Text.IsTrimmed` — a text that neither begins nor ends with a blank;
* `trim_append` — trimming removes the blanks around such a text;
* `exists_trim` — it removes nothing else from any text;
* `head?_trim` — and what is left begins with the first code point that is no blank.
-/

namespace RecordPrint

namespace Text

theorem isBlank_append (s t : Text) : (s ++ t).isBlank = (s.isBlank && t.isBlank) := List.all_append

theorem isBlank_cons (c : CodePoint) (t : Text) : isBlank (c :: t) = (c.isBlank && t.isBlank) := rfl

/-- A text is cut at the first occurrence. -/
theorem cut_append {sep : CodePoint} {before : Text} (h : sep ∉ before) (behind : Text) :
    (before ++ sep :: behind).cut sep = (before, some behind) := by
  induction before with
  | nil => simp [cut]
  | cons c before ih =>
    rw [List.mem_cons, not_or] at h
    have hne : c ≠ sep := fun heq => h.1 heq.symm
    rw [List.cons_append, cut, if_neg hne, ih h.2]

theorem cut_eq_self {sep : CodePoint} {t : Text} (h : sep ∉ t) : t.cut sep = (t, none) := by
  induction t with
  | nil => rfl
  | cons c t ih =>
    rw [List.mem_cons, not_or] at h
    have hne : c ≠ sep := fun heq => h.1 heq.symm
    rw [cut, if_neg hne, ih h.2]

/-! ### Pieces -/

theorem dropStart?_eq_some_iff {start t rest : Text} : dropStart? start t = some rest ↔ t = start ++ rest := by
  induction start generalizing t with
  | nil => rw [dropStart?, Option.some.injEq, List.nil_append]
  | cons s start ih =>
    cases t with
    | nil => simp [dropStart?]
    | cons c t =>
      rw [dropStart?, List.cons_append, List.cons.injEq]
      split
      · rename_i hsame
        rw [ih, and_iff_right hsame.symm]
      · rename_i hother
        exact ⟨fun h => (by cases h), fun h => absurd h.1.symm hother⟩

theorem splitOnPoint_eq_self {sep : CodePoint} {t : Text} (h : sep ∉ t) : t.splitOnPoint sep = [t] := by
  induction t with
  | nil => rfl
  | cons c t ih =>
    rw [List.mem_cons, not_or] at h
    have hne : c ≠ sep := fun heq => h.1 heq.symm
    rw [splitOnPoint, if_neg hne, ih h.2]

theorem splitOnPoint_append {sep : CodePoint} {before : Text} (h : sep ∉ before) (behind : Text) :
    (before ++ sep :: behind).splitOnPoint sep = before :: behind.splitOnPoint sep := by
  induction before with
  | nil => rw [List.nil_append, splitOnPoint, if_pos rfl]
  | cons c before ih =>
    rw [List.mem_cons, not_or] at h
    have hne : c ≠ sep := fun heq => h.1 heq.symm
    rw [List.cons_append, splitOnPoint, if_neg hne, ih h.2]

theorem splitOnPoint_ne_nil (sep : CodePoint) (t : Text) : t.splitOnPoint sep ≠ [] := by
  by_cases hsep : sep ∈ t
  · obtain ⟨before, behind, rfl, hbefore⟩ := List.eq_append_cons_of_mem hsep
    rw [splitOnPoint_append hbefore]
    exact List.cons_ne_nil _ _
  · rw [splitOnPoint_eq_self hsep]
    exact List.cons_ne_nil _ _

/-- A text has two pieces exactly if the separator stands in it once. -/
theorem splitOnPoint_eq_pair_iff {sep : CodePoint} {t p q : Text} :
    t.splitOnPoint sep = [p, q] ↔ t = p ++ sep :: q ∧ sep ∉ p ∧ sep ∉ q := by
  constructor
  · intro h
    by_cases hsep : sep ∈ t
    · obtain ⟨before, behind, rfl, hbefore⟩ := List.eq_append_cons_of_mem hsep
      rw [splitOnPoint_append hbefore, List.cons.injEq] at h
      obtain ⟨rfl, h⟩ := h
      by_cases hagain : sep ∈ behind
      · obtain ⟨before', behind', rfl, hbefore'⟩ := List.eq_append_cons_of_mem hagain
        rw [splitOnPoint_append hbefore', List.cons.injEq] at h
        exact absurd h.2 (splitOnPoint_ne_nil sep behind')
      · rw [splitOnPoint_eq_self hagain] at h
        cases h
        exact ⟨rfl, hbefore, hagain⟩
    · rw [splitOnPoint_eq_self hsep] at h
      cases h
  · rintro ⟨rfl, hp, hq⟩
    rw [splitOnPoint_append hp, splitOnPoint_eq_self hq]

/-! ### Trimming -/

/-- A text begins and ends with code points that are no blanks. -/
structure IsTrimmed (t : Text) : Prop where
  first : ∃ c, t.head? = some c ∧ c.isBlank = false
  last : ∃ c, t.getLast? = some c ∧ c.isBlank = false

theorem IsTrimmed.isBlank_eq {t : Text} (h : t.IsTrimmed) : t.isBlank = false := by
  obtain ⟨c, hc, hblank⟩ := h.first
  obtain ⟨u, rfl⟩ := List.head?_eq_some_iff.1 hc
  rw [isBlank_cons, hblank, Bool.false_and]

/-- Trimming removes the blanks around a text that neither begins nor ends with one. -/
theorem trim_append {a t b : Text} (ha : a.isBlank = true) (hb : b.isBlank = true) (ht : t.IsTrimmed) :
    (a ++ t ++ b).trim = t := by
  obtain ⟨c, hc, hfirst⟩ := ht.first
  obtain ⟨d, hd, hlast⟩ := ht.last
  have hstart : (a ++ t ++ b).trimStart = t ++ b := by
    obtain ⟨u, rfl⟩ := List.head?_eq_some_iff.1 hc
    rw [trimStart, List.append_assoc, List.dropWhile_append_of_pos (List.all_eq_true.1 ha), List.cons_append,
      List.dropWhile_cons, hfirst]
    rfl
  have hend : (t ++ b).reverse.dropWhile CodePoint.isBlank = t.reverse := by
    rw [← List.head?_reverse] at hd
    obtain ⟨u, hu⟩ := List.head?_eq_some_iff.1 hd
    rw [List.reverse_append,
      List.dropWhile_append_of_pos fun c hc => List.all_eq_true.1 hb c (List.mem_reverse.1 hc), hu,
      List.dropWhile_cons, hlast]
    rfl
  rw [trim, hstart, trimEnd, hend, List.reverse_reverse]

theorem IsTrimmed.trim_eq {t : Text} (h : t.IsTrimmed) : t.trim = t := by
  have := trim_append (a := []) (b := []) rfl rfl h
  rwa [List.nil_append, List.append_nil] at this

theorem IsTrimmed.ne_nil {t : Text} (h : t.IsTrimmed) : t ≠ [] := by
  rintro rfl
  obtain ⟨c, hc, -⟩ := h.first
  cases hc

theorem isBlank_reverse (t : Text) : isBlank t.reverse = t.isBlank := List.all_reverse

theorem exists_trimStart (t : Text) : ∃ a : Text, a.isBlank = true ∧ t = a ++ t.trimStart :=
  ⟨t.takeWhile CodePoint.isBlank, List.all_eq_true.2 fun _ hc => List.mem_takeWhile_imp hc,
    List.takeWhile_append_dropWhile.symm⟩

theorem trimEnd_eq (t : Text) : t.trimEnd = (trimStart t.reverse).reverse := rfl

theorem exists_trimEnd (t : Text) : ∃ b : Text, b.isBlank = true ∧ t = t.trimEnd ++ b := by
  obtain ⟨a, ha, hsplit⟩ := exists_trimStart t.reverse
  refine ⟨a.reverse, by rw [isBlank_reverse, ha], ?_⟩
  rw [trimEnd_eq, ← List.reverse_append, ← hsplit, List.reverse_reverse]

/-- Trimming leaves out blanks only. -/
theorem exists_trim (t : Text) : ∃ a b : Text, a.isBlank = true ∧ b.isBlank = true ∧ t = a ++ t.trim ++ b := by
  obtain ⟨a, ha, hstart⟩ := exists_trimStart t
  obtain ⟨b, hb, hend⟩ := exists_trimEnd t.trimStart
  refine ⟨a, b, ha, hb, ?_⟩
  rw [List.append_assoc]
  exact hstart.trans (congrArg (a ++ ·) hend)

theorem isBlank_trimStart (t : Text) : t.trimStart.isBlank = t.isBlank := by
  obtain ⟨a, ha, hsplit⟩ := exists_trimStart t
  have hblank := congrArg isBlank hsplit
  rw [isBlank_append, ha, Bool.true_and] at hblank
  exact hblank.symm

theorem trimStart_eq_nil_iff {t : Text} : t.trimStart = [] ↔ t.isBlank = true := by
  rw [trimStart, List.dropWhile_eq_nil_iff, isBlank, List.all_eq_true]

theorem trimStart_append_of_isBlank {s : Text} (hs : s.isBlank = true) (t : Text) :
    (s ++ t).trimStart = t.trimStart :=
  List.dropWhile_append_of_pos (List.all_eq_true.1 hs)

theorem trimStart_append_of_not_isBlank {s : Text} (hs : s.isBlank = false) (t : Text) :
    (s ++ t).trimStart = s.trimStart ++ t := by
  have hne : s.trimStart.isEmpty = false := by
    rw [List.isEmpty_eq_false_iff, Ne, trimStart_eq_nil_iff, hs]
    exact Bool.false_ne_true
  rw [trimStart] at hne
  rw [trimStart, List.dropWhile_append, hne]
  rfl

theorem trim_of_isBlank {t : Text} (h : t.isBlank = true) : t.trim = [] := by
  rw [trim, trimStart_eq_nil_iff.2 h]
  rfl

/-- Nothing is left of a text by trimming exactly if it holds blanks only. -/
theorem trim_eq_nil_iff {t : Text} : t.trim = [] ↔ t.isBlank = true := by
  refine ⟨fun h => ?_, trim_of_isBlank⟩
  obtain ⟨a, b, ha, hb, hsplit⟩ := exists_trim t
  rw [hsplit, h, List.append_nil, isBlank_append, ha, hb]
  rfl

theorem trim_infix (t : Text) : t.trim <:+: t := by
  obtain ⟨a, b, -, -, hsplit⟩ := exists_trim t
  exact ⟨a, b, hsplit.symm⟩

/-- A trimmed text begins with the first code point of the text that is no blank. -/
theorem head?_trim (t : Text) : t.trim.head? = t.find? fun c => !c.isBlank := by
  have hfind : (t.find? fun c => !c.isBlank) = t.trimStart.head? := by
    rw [List.find?_eq_head?_dropWhile_not]
    simp only [Bool.not_not]
    rfl
  rw [hfind, trim]
  obtain ⟨b, hb, hend⟩ := exists_trimEnd t.trimStart
  cases htrim : t.trimStart.trimEnd with
  | nil =>
    -- what is left of the text is blank, so nothing is left of it at its start
    rw [htrim, List.nil_append] at hend
    rw [← hend, isBlank_trimStart, ← trimStart_eq_nil_iff] at hb
    rw [hb]
  | cons c u =>
    rw [hend, htrim]
    rfl

end Text

end RecordPrint
