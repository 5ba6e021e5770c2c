import RecordPrint.Text.CodePoint

/-!
# Blanks

The blank characters are the white space characters and separators of Unicode, with the four
information separators of ASCII among them. Trimming removes them at both ends of a text.
-/

namespace RecordPrint

/-- The blank characters: closed ranges of code point numbers. -/
def blankRanges : List (Nat × Nat) :=
  [(0x09, 0x0D), (0x1C, 0x20), (0x85, 0x85), (0xA0, 0xA0), (0x1680, 0x1680), (0x2000, 0x200A),
   (0x2028, 0x2029), (0x202F, 0x202F), (0x205F, 0x205F), (0x3000, 0x3000)]

/-- Whether a number lies in one of the closed ranges. -/
def inRanges (ranges : List (Nat × Nat)) (n : Nat) : Bool :=
  ranges.any fun r => r.1 ≤ n && n ≤ r.2

def CodePoint.isBlank (c : CodePoint) : Bool := inRanges blankRanges c.toNat

namespace Text

/-- The text without the blanks at its start. -/
def trimStart (t : Text) : Text := t.dropWhile CodePoint.isBlank

/-- The text without the blanks at its end. -/
def trimEnd (t : Text) : Text := (t.reverse.dropWhile CodePoint.isBlank).reverse

/-- The text without the blanks at both ends. -/
def trim (t : Text) : Text := t.trimStart.trimEnd

/-- Whether a text holds blanks only. -/
def isBlank (t : Text) : Bool := t.all CodePoint.isBlank

end Text

end RecordPrint
