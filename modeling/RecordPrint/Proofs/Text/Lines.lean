import RecordPrint.Proofs.Text.Trimming
import RecordPrint.Text.Lines

/-!
# Lines that are not blank

* `cutLine_none` and `cutLine_some` — a text is one line, or a line, its boundary and what is behind it;
* `line_induction` — induction on the lines of a text;
* `contentLines_append_cons` — behind a boundary the lines that are not blank begin anew;
* `contentLines_eq_nil_iff` and `two_le_length_contentLines` — a text without such lines is blank, and a text with a
  line boundary inside has two of them;
* `contentLines_trim_congr` — trimming a text only changes the first and the last of these lines.
-/

namespace RecordPrint

open CodePoint (isBlank endsLine)

theorem CodePoint.isBlank_of_endsLine {c : CodePoint} (h : endsLine c = true) : isBlank c = true := by
  simp only [endsLine, Bool.or_eq_true, Bool.and_eq_true, decide_eq_true_eq, beq_iff_eq] at h
  simp only [isBlank, inRanges, blankRanges, List.any_cons, List.any_nil, Bool.or_eq_true, Bool.and_eq_true,
    decide_eq_true_eq]
  omega

namespace Text

/-- A text without carriage returns is read as it is. -/
theorem unifyLineEnds_eq {t : Text} (h : CodePoint.char '\r' ∉ t) : unifyLineEnds t = t := by
  fun_induction unifyLineEnds t with
  | case1 => rfl
  | case2 | case3 => exact absurd List.mem_cons_self h
  | case4 c t _ _ ih => rw [ih fun hmem => h (List.mem_cons_of_mem _ hmem)]

/-! ### The first line -/

/-- A text without a boundary is one line. -/
theorem cutLine_none {t : Text} (h : (cutLine t).2 = none) : (cutLine t).1 = t ∧ ∀ c ∈ t, c.endsLine = false := by
  fun_induction cutLine t with
  | case1 => simp
  | case2 => cases h
  | case3 => cases h
  | case4 c t _ hc ih =>
    obtain ⟨hline, hend⟩ := ih h
    exact ⟨by rw [hline], List.forall_mem_cons.2 ⟨by simpa using hc, hend⟩⟩

theorem cutLine_eq {t : Text} (h : ∀ c ∈ t, c.endsLine = false) : cutLine t = (t, none) := by
  fun_induction cutLine t with
  | case1 => rfl
  | case2 => exact absurd (h _ List.mem_cons_self) (by decide)
  | case3 c t _ hc => exact absurd hc (by simp [h])
  | case4 c t _ hc ih => rw [ih fun d hd => h d (List.mem_cons_of_mem _ hd)]

/-- A text with a boundary is its first line, the boundary, and what is behind it. -/
theorem cutLine_some {t rest : Text} (h : (cutLine t).2 = some rest) :
    ∃ b : Text, t = (cutLine t).1 ++ (b ++ rest) ∧ b ≠ [] ∧ b.isBlank = true := by
  fun_induction cutLine t generalizing rest with
  | case1 => cases h
  | case2 t =>
    cases h
    exact ⟨[.char '\r', .char '\n'], rfl, by simp, rfl⟩
  | case3 c t _ hc =>
    cases h
    exact ⟨[c], rfl, by simp, by simp [isBlank, CodePoint.isBlank_of_endsLine hc]⟩
  | case4 c t _ hc ih =>
    obtain ⟨b, hb, hne, hblank⟩ := ih h
    exact ⟨b, congrArg (c :: ·) hb, hne, hblank⟩

/-- A text has no boundary, or it is a line, a boundary and what is behind it. -/
theorem exists_boundary (t : Text) : (∀ c ∈ t, c.endsLine = false) ∨
    ∃ (line : Text) (c : CodePoint) (rest : Text),
      t = line ++ c :: rest ∧ (∀ d ∈ line, d.endsLine = false) ∧ c.endsLine = true := by
  induction t with
  | nil => exact .inl (by simp)
  | cons c t ih =>
    by_cases hc : c.endsLine = true
    · exact .inr ⟨[], c, t, rfl, by simp, hc⟩
    · rw [Bool.not_eq_true] at hc
      rcases ih with hline | ⟨line, d, rest, rfl, hline, hd⟩
      · exact .inl (List.forall_mem_cons.2 ⟨hc, hline⟩)
      · exact .inr ⟨c :: line, d, rest, rfl, List.forall_mem_cons.2 ⟨hc, hline⟩, hd⟩

/-- Texts line by line: what holds of a text without a boundary, and of a line, a boundary and what is behind it if it
holds of this, holds of every text. -/
@[elab_as_elim]
theorem line_induction {P : Text → Prop} (line : ∀ t, (∀ c ∈ t, c.endsLine = false) → P t)
    (boundary : ∀ line c rest, (∀ d ∈ line, d.endsLine = false) → c.endsLine = true → P rest → P (line ++ c :: rest))
    (t : Text) : P t := by
  rcases exists_boundary t with hline | ⟨first, c, rest, ht, hfirst, hc⟩
  · exact line t hline
  · have hlt : rest.length < t.length := by
      rw [ht, List.length_append, List.length_cons]
      omega
    rw [ht]
    exact boundary first c rest hfirst hc (line_induction line boundary rest)
termination_by t.length

/-- The first line of a text is what is in front of its first boundary, which is this code point or a line feed behind
it as well. -/
theorem cutLine_append {line : Text} (hline : ∀ d ∈ line, d.endsLine = false) {c : CodePoint} (hc : c.endsLine = true)
    (t : Text) : cutLine (line ++ c :: t) = (line, some t) ∨
      ∃ u, t = .char '\n' :: u ∧ cutLine (line ++ c :: t) = (line, some u) := by
  induction line with
  | nil =>
    rw [List.nil_append]
    by_cases hpair : ∃ u, c = .char '\r' ∧ t = .char '\n' :: u
    · obtain ⟨u, rfl, rfl⟩ := hpair
      exact .inr ⟨u, rfl, rfl⟩
    · left
      rw [cutLine, if_pos hc]
      exact fun u hreturn hu => hpair ⟨u, hreturn, hu⟩
  | cons d line ih =>
    obtain ⟨hd, hline⟩ := List.forall_mem_cons.1 hline
    have hcons : cutLine (d :: line ++ c :: t) =
        (d :: (cutLine (line ++ c :: t)).1, (cutLine (line ++ c :: t)).2) := by
      rw [List.cons_append, cutLine, if_neg (by simp [hd])]
      rintro u rfl -
      cases hd
    rcases ih hline with hcut | ⟨u, rfl, hcut⟩
    · exact .inl (by rw [hcons, hcut])
    · exact .inr ⟨u, rfl, by rw [hcons, hcut]⟩

/-- Each line of a text stands in it. -/
theorem infix_of_mem_lines {t line : Text} (h : line ∈ t.lines) : line <:+: t := by
  rw [lines] at h
  split at h
  · cases h
  · split at h
    · next first hcut =>
      have hwhole : (cutLine t).1 = t := (cutLine_none (by rw [hcut])).1
      have hline : line = t := by rw [← hwhole, hcut, List.mem_singleton.1 h]
      exact ⟨[], [], by rw [hline, List.nil_append, List.append_nil]⟩
    · next first rest hcut =>
      have hrest : (cutLine t).2 = some rest := by rw [hcut]
      obtain ⟨b, hb, -, -⟩ := cutLine_some hrest
      have hlt := length_cutLine hrest
      rw [hcut] at hb
      rcases List.mem_cons.1 h with rfl | h
      · exact ⟨[], b ++ rest, by rw [List.nil_append, ← hb]⟩
      · obtain ⟨before, behind, hline⟩ := infix_of_mem_lines h
        exact ⟨first ++ b ++ before, behind, by rw [hb, ← hline]; simp⟩
termination_by t.length

/-! ### Lines with content -/

/-- The lines of a text that are not blank. -/
def contentLines (t : Text) : List Text := t.lines.filter fun line => !line.isBlank

theorem contentLines_nil : contentLines [] = [] := by
  rw [contentLines, lines]
  rfl

/-- The lines of a text that are not blank: the first line, if it is one of them, and those behind it. -/
theorem contentLines_eq (t : Text) : contentLines t =
    [(cutLine t).1].filter (fun line => !line.isBlank) ++ ((cutLine t).2.map contentLines).getD [] := by
  by_cases hnil : t = []
  · rw [hnil, contentLines_nil]
    rfl
  · rw [contentLines, lines, if_neg hnil]
    split
    · next line hcut => simp [hcut]
    · next line rest hcut =>
      simp only [hcut]
      rw [← List.singleton_append, List.filter_append]
      rfl

/-- A text without a boundary is its only line. -/
theorem contentLines_of_line {t : Text} (h : ∀ c ∈ t, c.endsLine = false) :
    contentLines t = [t].filter fun line => !line.isBlank := by
  rw [contentLines_eq, cutLine_eq h]
  simp

/-- A line feed at the start of a text ends a blank line. -/
theorem contentLines_newline (t : Text) : contentLines (.char '\n' :: t) = contentLines t := by
  rw [contentLines_eq]
  rfl

/-- Behind the first boundary of a text the lines that are not blank begin anew. -/
theorem contentLines_boundary {line : Text} (hline : ∀ d ∈ line, d.endsLine = false) {c : CodePoint}
    (hc : c.endsLine = true) (t : Text) :
    contentLines (line ++ c :: t) = ([line].filter fun line => !line.isBlank) ++ contentLines t := by
  rw [contentLines_eq]
  rcases cutLine_append hline hc t with hcut | ⟨u, rfl, hcut⟩
  · rw [hcut]
    rfl
  · -- the line feed of a pair counts as one more blank line
    rw [hcut, contentLines_newline]
    rfl

/-- Behind a boundary the lines that are not blank begin anew. -/
theorem contentLines_append_cons {c : CodePoint} (hc : c.endsLine = true) (s t : Text) :
    contentLines (s ++ c :: t) = contentLines s ++ contentLines t := by
  induction s using line_induction with
  | line s hs => rw [contentLines_boundary hs hc, contentLines_of_line hs]
  | boundary line d rest hline hd ih =>
    rw [List.append_assoc, List.cons_append, contentLines_boundary hline hd, ih, contentLines_boundary hline hd,
      List.append_assoc]

theorem contentLines_append (s t : Text) :
    contentLines (s ++ .char '\n' :: t) = contentLines s ++ contentLines t :=
  contentLines_append_cons rfl s t

/-- A text is blank if none of its lines has content. -/
theorem contentLines_eq_nil_iff {t : Text} : contentLines t = [] ↔ t.isBlank = true := by
  induction t using line_induction with
  | line t ht => simp [contentLines_of_line ht]
  | boundary line c rest hline hc ih =>
    rw [contentLines_boundary hline hc, List.append_eq_nil_iff, ih, isBlank_append, isBlank_cons,
      CodePoint.isBlank_of_endsLine hc]
    simp

/-- A text without a boundary is its only line with content if it is not blank. -/
theorem contentLines_eq_singleton {t : Text} (h : ∀ c ∈ t, c.endsLine = false) (hne : t.isBlank = false) :
    contentLines t = [t] := by
  rw [contentLines_of_line h]
  simp [hne]

/-- A text that neither begins nor ends with a blank has two lines with content if there is a boundary inside. -/
theorem two_le_length_contentLines {t : Text} {c : CodePoint} (hc : c ∈ t) (hend : c.endsLine = true)
    (ht : t.IsTrimmed) : 2 ≤ (contentLines t).length := by
  obtain ⟨first, hfirst, hfirstBlank⟩ := ht.first
  obtain ⟨last, hlast, hlastBlank⟩ := ht.last
  rcases exists_boundary t with hnone | ⟨line, d, rest, rfl, hline, hd⟩
  · rw [hnone c hc] at hend
    cases hend
  · have hdBlank := CodePoint.isBlank_of_endsLine hd
    -- the line in front of the boundary begins with the first code point, the rest ends with the last one
    have hlineBlank : isBlank line = false := by
      cases line with
      | nil =>
        cases hfirst
        rw [hfirstBlank] at hdBlank
        cases hdBlank
      | cons e line =>
        cases hfirst
        rw [isBlank_cons, hfirstBlank, Bool.false_and]
    have hrest : contentLines rest ≠ [] := by
      rw [Ne, contentLines_eq_nil_iff]
      intro hrestBlank
      have hall : isBlank (d :: rest) = true := by rw [isBlank_cons, hdBlank, hrestBlank, Bool.true_and]
      rw [List.getLast?_append, List.getLast?_eq_some_getLast (List.cons_ne_nil d rest)] at hlast
      cases hlast
      rw [List.all_eq_true.1 hall _ (List.getLast_mem _)] at hlastBlank
      cases hlastBlank
    have hpos := List.length_pos_iff.2 hrest
    rw [contentLines_append_cons hd, contentLines_eq_singleton hline hlineBlank, List.length_append,
      List.length_singleton]
    omega

/-! ### Lines of trimmed texts -/

theorem endsLine_of_mem_trimStart {t : Text} (h : ∀ c ∈ t, c.endsLine = false) :
    ∀ c ∈ t.trimStart, c.endsLine = false :=
  fun c hc => h c ((List.dropWhile_sublist _).mem hc)

theorem contentLines_reverse_of_line {t : Text} (h : ∀ c ∈ t, c.endsLine = false) :
    contentLines t.reverse = ((contentLines t).map List.reverse).reverse := by
  rw [contentLines_of_line h, contentLines_of_line fun c hc => h c (List.mem_reverse.1 hc)]
  cases hblank : t.isBlank <;> simp [isBlank_reverse, hblank]

/-- Read backwards, a text has the same lines with content, backwards and in the other order. -/
theorem contentLines_reverse (t : Text) : contentLines t.reverse = ((contentLines t).map List.reverse).reverse := by
  induction t using line_induction with
  | line t ht => exact contentLines_reverse_of_line ht
  | boundary line c rest hline hc ih =>
    have hreverse : (line ++ c :: rest).reverse = rest.reverse ++ c :: line.reverse := by simp
    rw [hreverse, contentLines_append_cons hc, ih, contentLines_reverse_of_line hline, contentLines_append_cons hc,
      List.map_append, List.reverse_append]

/-- What is trimmed at the start of a text is trimmed at the start of its first line with content. -/
theorem contentLines_trimStart (t : Text) : contentLines t.trimStart = (contentLines t).modifyHead trimStart := by
  induction t using line_induction with
  | line t ht =>
    rw [contentLines_of_line ht, contentLines_of_line (endsLine_of_mem_trimStart ht)]
    cases hblank : t.isBlank <;> simp [isBlank_trimStart, hblank]
  | boundary line c rest hline hc ih =>
    cases hblank : line.isBlank with
    | true =>
      have hskip : (line ++ c :: rest).trimStart = rest.trimStart := by
        rw [trimStart_append_of_isBlank hblank, trimStart, List.dropWhile_cons, CodePoint.isBlank_of_endsLine hc]
        rfl
      rw [hskip, ih, contentLines_boundary hline hc]
      simp [hblank]
    | false =>
      rw [trimStart_append_of_not_isBlank hblank, contentLines_boundary (endsLine_of_mem_trimStart hline) hc,
        contentLines_boundary hline hc]
      simp [isBlank_trimStart, hblank]

/-- What is trimmed at the end of a text is trimmed at the end of its last line with content. -/
theorem contentLines_trimEnd (t : Text) :
    contentLines t.trimEnd = ((contentLines t).reverse.modifyHead trimEnd).reverse := by
  rw [trimEnd_eq, contentLines_reverse, contentLines_trimStart, contentLines_reverse]
  have hlines : ∀ ls : List Text, ((ls.map List.reverse).modifyHead trimStart).map List.reverse =
      ls.modifyHead trimEnd := by
    intro ls
    cases ls with
    | nil => rfl
    | cons l ls =>
      have hback : (ls.map List.reverse).map List.reverse = ls := by
        rw [List.map_map]
        exact (List.map_congr_left fun l _ => List.reverse_reverse l).trans (List.map_id ls)
      rw [List.map_cons, List.modifyHead_cons, List.map_cons, hback, List.modifyHead_cons, trimEnd_eq]
  have hreverse : ((contentLines t).map List.reverse).reverse = (contentLines t).reverse.map List.reverse :=
    List.map_reverse.symm
  rw [hreverse, hlines]

/-- The lines with content of a trimmed text are determined by those of the text. -/
theorem contentLines_trim_congr {t u : Text} (h : contentLines t = contentLines u) :
    contentLines t.trim = contentLines u.trim := by
  rw [trim, trim, contentLines_trimEnd, contentLines_trimEnd, contentLines_trimStart, contentLines_trimStart, h]

theorem filter_contentLines_of_line {t : Text} (h : ∀ c ∈ t, c.endsLine = false) :
    (contentLines t).flatten.filter (fun c => !c.isBlank) = t.filter fun c => !c.isBlank := by
  rw [contentLines_of_line h]
  cases hblank : t.isBlank with
  | false => simp [hblank]
  | true =>
    have hnone : t.filter (fun c => !c.isBlank) = [] := by
      rw [List.filter_eq_nil_iff]
      intro c hc
      simp [List.all_eq_true.1 hblank c hc]
    simp [hblank, hnone]

/-- All that is not blank stands in the lines with content. -/
theorem filter_contentLines (t : Text) :
    (contentLines t).flatten.filter (fun c => !c.isBlank) = t.filter fun c => !c.isBlank := by
  induction t using line_induction with
  | line t ht => exact filter_contentLines_of_line ht
  | boundary line c rest hline hc ih =>
    rw [contentLines_append_cons hc, List.flatten_append, List.filter_append, filter_contentLines_of_line hline, ih,
      List.filter_append, List.filter_cons_of_neg (by simp [CodePoint.isBlank_of_endsLine hc])]

end Text

end RecordPrint
