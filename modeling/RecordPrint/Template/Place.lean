import RecordPrint.Number.Numeral

/-!
# Places of templates

A place of a template follows a percent sign: a name in parentheses, flags, a least width, a precision
behind a point, a letter for the length of a number, which means nothing, and a letter that says which
form of the argument stands in the place. All but the last letter may be missing. An asterisk instead of
a width or a precision asks for it as an argument of its own. `cutPlace` finds a place in any text, and
what is behind it never is longer than the text.
-/

namespace RecordPrint

namespace Template

/-- Which argument a place asks for. -/
inductive Choice where
  | next
  | named (name : Text)
  /-- The argument of a name that has no end. -/
  | unclosed
  deriving DecidableEq

/-- How wide or how precise a place is. -/
inductive Extent where
  | unset
  | given (n : Nat)
  /-- The next argument tells. -/
  | supplied
  deriving DecidableEq

/-- A place of a template; without a letter it is not complete. -/
structure Place where
  choice : Choice
  flags : Text
  width : Extent
  precision : Extent
  letter : Option CodePoint
  deriving DecidableEq

/-- A name up to the parenthesis that closes it, and what is behind that, if there is one. Inside of the
name, `depth` parentheses are open. -/
def closeName : (depth : Nat) → Text → Option (Text × Text)
  | _, [] => none
  | 0, .char ')' :: t => some ([], t)
  | depth + 1, .char ')' :: t => (closeName depth t).map fun (name, t) => (.char ')' :: name, t)
  | depth, .char '(' :: t => (closeName (depth + 1) t).map fun (name, t) => (.char '(' :: name, t)
  | depth, c :: t => (closeName depth t).map fun (name, t) => (c :: name, t)

/-- The choice at the start of a text, and what is behind it. -/
def cutChoice : Text → Choice × Text
  | .char '(' :: t =>
    match closeName 0 t with
    | some (name, t) => (.named name, t)
    | none => (.unclosed, [])
  | t => (.next, t)

def isFlag (c : CodePoint) : Bool :=
  c = .char '-' || c = .char '+' || c = .char ' ' || c = .char '0' || c = .char '#'

/-- Whether a code point is an ASCII digit. -/
def isDigit (c : CodePoint) : Bool := 0x30 ≤ c.toNat && c.toNat ≤ 0x39

/-- The extent at the start of a text, and what is behind it. -/
def cutExtent : Text → Extent × Text
  | .char '*' :: t => (.supplied, t)
  | t =>
    match t.takeWhile isDigit with
    | [] => (.unset, t)
    | digits => (.given (Numeral.value digits), t.dropWhile isDigit)

/-- The precision at the start of a text, and what is behind it; nothing but a point is zero. -/
def cutPrecision : Text → Extent × Text
  | .char '.' :: t =>
    match cutExtent t with
    | (.unset, t) => (.given 0, t)
    | cut => cut
  | t => (.unset, t)

/-- What is behind a letter for the length of a number, if a text starts with one. -/
def skipLength : Text → Text
  | .char 'h' :: t | .char 'l' :: t | .char 'L' :: t => t
  | t => t

/-- The place at the start of a text, and what is behind it. -/
def cutPlace (t : Text) : Place × Text :=
  let choice := cutChoice t
  let width := cutExtent (choice.2.dropWhile isFlag)
  let precision := cutPrecision width.2
  let behind := skipLength precision.2
  (⟨choice.1, choice.2.takeWhile isFlag, width.1, precision.1, behind.head?⟩, behind.tail)

theorem length_of_closeName {depth : Nat} {t name rest : Text}
    (h : closeName depth t = some (name, rest)) : rest.length ≤ t.length := by
  fun_induction closeName depth t generalizing name rest with
  | case1 => simp at h
  | case2 t => simp_all
  | case3 | case4 | case5 =>
    rename_i ih
    obtain ⟨⟨n, r⟩, hr, e⟩ := Option.map_eq_some_iff.1 h
    simp only [Prod.mk.injEq] at e
    have := ih hr
    simp only [List.length_cons, ← e.2]
    omega

theorem length_cutChoice_le (t : Text) : (cutChoice t).2.length ≤ t.length := by
  unfold cutChoice
  split
  · split
    · rename_i h
      have := length_of_closeName h
      simp only [List.length_cons]
      omega
    · simp
  · simp

theorem length_cutExtent_le (t : Text) : (cutExtent t).2.length ≤ t.length := by
  unfold cutExtent
  split
  · simp
  · split
    · simp
    · exact (List.dropWhile_suffix _).length_le

theorem length_cutPrecision_le (t : Text) : (cutPrecision t).2.length ≤ t.length := by
  unfold cutPrecision
  split
  · rename_i t
    have := length_cutExtent_le t
    split <;> simp_all <;> omega
  · simp

theorem length_skipLength_le (t : Text) : (skipLength t).length ≤ t.length := by
  unfold skipLength
  split <;> simp

/-- What is behind a place is no longer than the text that the place was found in. -/
theorem length_cutPlace_le (t : Text) : (cutPlace t).2.length ≤ t.length := by
  have behind := length_skipLength_le (cutPrecision (cutExtent ((cutChoice t).2.dropWhile isFlag)).2).2
  have precision := length_cutPrecision_le (cutExtent ((cutChoice t).2.dropWhile isFlag)).2
  have width := length_cutExtent_le ((cutChoice t).2.dropWhile isFlag)
  have flags := (List.dropWhile_suffix isFlag (l := (cutChoice t).2)).length_le
  have choice := length_cutChoice_le t
  simp only [cutPlace, List.length_tail]
  omega

end Template

end RecordPrint
