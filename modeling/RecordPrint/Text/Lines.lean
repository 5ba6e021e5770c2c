import RecordPrint.Text.CodePoint

/-!
# Lines

A line ends at any of the line boundaries of Unicode; a carriage return and the line feed behind it
are one boundary. `Text.lines` gives the lines without their boundaries, and a boundary at the very
end opens no further line. `Text.unifyLineEnds` is what reading a text file does: a carriage return,
alone or with a line feed, becomes a line feed.
-/

namespace RecordPrint

def CodePoint.endsLine (c : CodePoint) : Bool :=
  let n := c.toNat
  (0x0A ≤ n && n ≤ 0x0D) || (0x1C ≤ n && n ≤ 0x1E) || n == 0x85 || n == 0x2028 || n == 0x2029

namespace Text

/-- Every carriage return, with or without a line feed behind it, as one line feed. -/
def unifyLineEnds : Text → Text
  | [] => []
  | .char '\r' :: .char '\n' :: t => .char '\n' :: unifyLineEnds t
  | .char '\r' :: t => .char '\n' :: unifyLineEnds t
  | c :: t => c :: unifyLineEnds t

/-- The first line of a text and what is behind its boundary; `none` if no boundary ends it. -/
def cutLine : Text → Text × Option Text
  | [] => ([], none)
  | .char '\r' :: .char '\n' :: t => ([], some t)
  | c :: t => if c.endsLine then ([], some t) else (c :: (cutLine t).1, (cutLine t).2)

theorem length_cutLine {t rest : Text} (h : (cutLine t).2 = some rest) : rest.length < t.length := by
  fun_induction cutLine t generalizing rest with
  | case1 => simp at h
  | case2 t => simp at h; subst h; simp only [List.length_cons]; omega
  | case3 c t _ hc => simp at h; subst h; simp
  | case4 c t _ hc ih => have := ih h; simp only [List.length_cons]; omega

def lines (t : Text) : List Text :=
  if t = [] then []
  else match _cut : cutLine t with
    | (line, none) => [line]
    | (line, some rest) => line :: lines rest
termination_by t.length
decreasing_by exact length_cutLine (by rw [_cut])

end Text

end RecordPrint
