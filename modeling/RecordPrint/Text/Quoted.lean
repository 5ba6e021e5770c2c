import RecordPrint.Text.Printable

/-!
# Quoted texts

A text as messages show it: in single quotes, or in double quotes if it holds single quotes and no
double ones. Backslashes, the enclosing quote and everything unprintable are escaped.
-/

namespace RecordPrint

/-- The lower-case hexadecimal digit of a value below sixteen. -/
def hexDigit (d : Nat) : Char := Char.ofNat (if d < 10 then 48 + d else 87 + d)

/-- The last `places` hexadecimal digits of a number. -/
def hexText : (places n : Nat) → Text
  | 0, _ => []
  | places + 1, n => hexText places (n / 16) ++ [.char (hexDigit (n % 16))]

namespace CodePoint

/-- The shortest numeric escape of a code point: two, four or eight hexadecimal digits. -/
def numericEscape (c : CodePoint) : Text :=
  if c.toNat < 0x100 then .char '\\' :: .char 'x' :: hexText 2 c.toNat
  else if c.toNat < 0x10000 then .char '\\' :: .char 'u' :: hexText 4 c.toNat
  else .char '\\' :: .char 'U' :: hexText 8 c.toNat

/-- A code point inside a text that is enclosed in `quote`. -/
def quotedIn (quote c : CodePoint) : Text :=
  if c = quote ∨ c = .char '\\' then [.char '\\', c]
  else if c = .char '\n' then [.char '\\', .char 'n']
  else if c = .char '\r' then [.char '\\', .char 'r']
  else if c = .char '\t' then [.char '\\', .char 't']
  else if c.isPrintable then [c] else c.numericEscape

end CodePoint

namespace Text

/-- The quote that encloses a text in messages. -/
def quoteMark (t : Text) : CodePoint :=
  if t.contains (.char '\'') && !t.contains (.char '"') then .char '"' else .char '\''

/-- A text as messages show it. -/
def quoted (t : Text) : Text :=
  t.quoteMark :: t.flatMap (CodePoint.quotedIn t.quoteMark) ++ [t.quoteMark]

end Text

end RecordPrint
