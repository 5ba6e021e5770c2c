/-!
# Code points and text

A text is a list of code points. A code point is a character or one half of a surrogate pair that
stands alone: input may spell such halves, every in-memory step carries them along unchanged, and only
the UTF-8 encoder refuses them.
-/

namespace RecordPrint

/-- A character, or one half of a surrogate pair standing alone (`0xD800 + unit`). -/
inductive CodePoint where
  | char (c : Char)
  | surrogate (unit : Fin 2048)
  deriving DecidableEq, Inhabited

namespace CodePoint

def toNat : CodePoint → Nat
  | char c => c.toNat
  | surrogate u => 0xD800 + u

/-- The code point of a number below `0x110000`. -/
def ofNat (n : Nat) : CodePoint :=
  if h : 0xD800 ≤ n ∧ n < 0xE000 then surrogate ⟨n - 0xD800, by omega⟩ else char (Char.ofNat n)

instance : Coe Char CodePoint := ⟨char⟩

end CodePoint

/-- A text: a list of code points. -/
abbrev Text := List CodePoint

namespace Text

def ofChars (cs : List Char) : Text := cs.map .char

def ofString (s : String) : Text := ofChars s.toList

instance : Coe String Text := ⟨ofString⟩

/-- The texts put one after the other with `sep` in between. -/
def join (sep : Text) : List Text → Text
  | [] => []
  | [t] => t
  | t :: ts => t ++ sep ++ join sep ts

/-- The pieces of `t` between the occurrences of `sep`; there is one more piece than occurrences. -/
def splitOnPoint (sep : CodePoint) : Text → List Text
  | [] => [[]]
  | c :: t =>
    if c = sep then [] :: splitOnPoint sep t
    else match splitOnPoint sep t with
      | [] => [[c]]
      | p :: ps => (c :: p) :: ps

/-- What is before the first `sep`, and what is behind it if there is one. -/
def cut (sep : CodePoint) : Text → Text × Option Text
  | [] => ([], none)
  | c :: t => if c = sep then ([], some t) else (c :: (cut sep t).1, (cut sep t).2)

/-- `t` filled up at the left with `pad` to a length of at least `width`. -/
def padLeft (pad : CodePoint) (width : Nat) (t : Text) : Text :=
  List.replicate (width - t.length) pad ++ t

/-- `t` filled up at the right with blanks to a length of at least `width`. -/
def padRight (width : Nat) (t : Text) : Text :=
  t ++ List.replicate (width - t.length) (.char ' ')

/-- What is left of `t` behind `start`, if `t` begins with `start`. -/
def dropStart? : (start t : Text) → Option Text
  | [], t => some t
  | _ :: _, [] => none
  | s :: start, c :: t => if s = c then dropStart? start t else none

/-- Whether `t` begins with `start`. -/
def startsWith (t start : Text) : Bool := (dropStart? start t).isSome

end Text

end RecordPrint
