import RecordPrint.Text.Blank
import RecordPrint.Text.LowerTable

/-!
# Small and capital letters

`Text.lower` is the small form of a text by the full rules of Unicode: the dotted capital I becomes
two code points, and a capital sigma takes its final form at the end of a word. `Text.capitals` is what
comparing with words of ASCII capitals needs: each letter whose capital is an ASCII letter is replaced
by that capital, all else stays.
-/

namespace RecordPrint

namespace CodePoint

/-- The small form of a code point other than capital sigma. -/
def small (c : CodePoint) : Text :=
  if c.toNat = 0x130 then [.char 'i', .char '\u0307']
  else match capitalRuns.find? (·.contains c.toNat) with
    | some r => [.ofNat (c.toNat + r.shift).toNat]
    | none => [c]

def isCased (c : CodePoint) : Bool := inRanges casedRanges c.toNat

/-- Whether a code point counts neither as the end of a word nor as part of one. -/
def isCaseNeutral (c : CodePoint) : Bool := inRanges caseNeutralRanges c.toNat

/-- The ASCII capital of a letter that has one; any other code point itself. The dotless i and the long
s are the only letters outside ASCII with such a capital. -/
def capital : CodePoint → CodePoint
  | .char c =>
    if 'a' ≤ c ∧ c ≤ 'z' then .char (Char.ofNat (c.toNat - 32))
    else if c = 'ı' then .char 'I' else if c = 'ſ' then .char 'S' else .char c
  | c => c

end CodePoint

namespace Text

/-- Whether a word that has `before` (last letter first) in front and `after` behind it ends here. -/
def atWordEnd (before after : Text) : Bool :=
  ((before.dropWhile CodePoint.isCaseNeutral).head?.any CodePoint.isCased) &&
    !((after.dropWhile CodePoint.isCaseNeutral).head?.any CodePoint.isCased)

/-- The small form of the second text, of which the first one is what stands in front of it. -/
def lowerBehind : (before t : Text) → Text
  | _, [] => []
  | before, c :: t =>
    (if c = .char 'Σ' then [if atWordEnd before t then .char 'ς' else .char 'σ'] else c.small) ++
      lowerBehind (c :: before) t

/-- The small form of a text. -/
def lower (t : Text) : Text := lowerBehind [] t

/-- The text with ASCII capitals for all letters that have one. -/
def capitals (t : Text) : Text := t.map CodePoint.capital

end Text

end RecordPrint
