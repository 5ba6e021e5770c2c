import RecordPrint.Value

/-!
# Reading JSON

JSON texts as trees of scalars. Beyond the standard, numbers that are not finite have names. A text
that is refused is refused at the first place where it cannot go on, which the fault tells as line,
column and offset. Integers whose digits exceed the limit are refused as well. Arrays and objects are
read however deep they are nested: the recursion limit of an interpreter is left out.
-/

namespace RecordPrint

/-- What a reader of JSON misses or does not accept. -/
inductive SyntaxProblem where
  | value
  | propertyName
  | colon
  | comma
  | unterminated
  | control
  | escape
  | unicodeEscape
  | extra
  | byteOrderMark
  deriving DecidableEq

def SyntaxProblem.message : SyntaxProblem → Text
  | value => "Expecting value"
  | propertyName => "Expecting property name enclosed in double quotes"
  | colon => "Expecting ':' delimiter"
  | comma => "Expecting ',' delimiter"
  | unterminated => "Unterminated string starting at"
  | control => "Invalid control character at"
  | escape => "Invalid \\escape"
  | unicodeEscape => "Invalid \\uXXXX escape"
  | extra => "Extra data"
  | byteOrderMark => "Unexpected UTF-8 BOM (decode using utf-8-sig)"

/-- Why a text is not read as JSON. -/
inductive JsonFault where
  /-- A problem at an offset. -/
  | malformed (problem : SyntaxProblem) (offset : Nat)
  /-- An integer with too many digits. -/
  | tooLong (digits : Nat)
  deriving DecidableEq

/-- The description of an offset into a text. -/
def placeText (t : Text) (offset : Nat) : Text :=
  let before := t.take offset
  let line := before.countP (· = .char '\n') + 1
  let column := (before.reverse.takeWhile (· ≠ .char '\n')).length + 1
  "line " ++ Numeral.ofNat line ++ " column " ++ Numeral.ofNat column ++
    " (char " ++ Numeral.ofNat offset ++ ")"

/-- The description of why a text is not read. -/
def JsonFault.message (t : Text) : JsonFault → Text
  | malformed problem offset => problem.message ++ ": " ++ placeText t offset
  | tooLong digits => (Numeral.ReadError.tooLong digits).message

namespace Json

/-- What is left of a text, and its offset. -/
structure Cursor where
  rest : Text
  offset : Nat

/-- Whether a code point is a blank between JSON tokens. -/
def isSpace (c : CodePoint) : Bool :=
  c = .char ' ' || c = .char '\t' || c = .char '\n' || c = .char '\r'

namespace Cursor

/-- The cursor behind some code points. -/
def advance (n : Nat) (c : Cursor) : Cursor := ⟨c.rest.drop n, c.offset + n⟩

/-- The cursor behind the blanks. -/
def skipSpace (c : Cursor) : Cursor := c.advance (c.rest.takeWhile isSpace).length

def refuse {α : Type} (c : Cursor) (problem : SyntaxProblem) : Except JsonFault α :=
  .error (.malformed problem c.offset)

end Cursor

/-- The value of a hexadecimal digit. -/
def hexValue? : CodePoint → Option Nat
  | .char c =>
    if '0' ≤ c ∧ c ≤ '9' then some (c.toNat - 48)
    else if 'a' ≤ c ∧ c ≤ 'f' then some (c.toNat - 87)
    else if 'A' ≤ c ∧ c ≤ 'F' then some (c.toNat - 55)
    else none
  | .surrogate _ => none

/-- The value of four hexadecimal digits. -/
def hexFour? (a b c d : CodePoint) : Option Nat := do
  return (((← hexValue? a) * 16 + (← hexValue? b)) * 16 + (← hexValue? c)) * 16 + (← hexValue? d)

/-- The code point that a letter behind a backslash stands for. -/
def unescaped? : CodePoint → Option CodePoint
  | .char '"' => some (.char '"')
  | .char '\\' => some (.char '\\')
  | .char '/' => some (.char '/')
  | .char 'b' => some (.char '\x08')
  | .char 'f' => some (.char '\x0c')
  | .char 'n' => some (.char '\n')
  | .char 'r' => some (.char '\r')
  | .char 't' => some (.char '\t')
  | _ => none

/-- Whether a number is the first half of a surrogate pair. -/
def isHigh (n : Nat) : Bool := 0xD800 ≤ n && n < 0xDC00

/-- Whether a number is the second half of a surrogate pair. -/
def isLow (n : Nat) : Bool := 0xDC00 ≤ n && n < 0xE000

/-- The character of a surrogate pair. -/
def joined (high low : Nat) : CodePoint :=
  .ofNat (0x10000 + (high - 0xD800) * 0x400 + (low - 0xDC00))

/-- A code point in front of a string that has been read. -/
def andThen (c : CodePoint) (more : Except JsonFault (Text × Cursor)) :
    Except JsonFault (Text × Cursor) :=
  more.map fun p => (c :: p.1, p.2)

/-- What follows an escape that is the first half of a surrogate pair. -/
inductive SecondHalf where
  /-- The other half. -/
  | half (n : Nat)
  /-- An escape that is broken. -/
  | broken
  /-- Anything else. -/
  | other

/-- What follows an escape that is the first half of a surrogate pair. An escape counts only if the
text goes on behind it. -/
def secondHalf : Text → SecondHalf
  | .char '\\' :: .char 'u' :: a :: b :: c :: d :: _ :: _ =>
    match hexFour? a b c d with
    | none => .broken
    | some n => if isLow n then .half n else .other
  | _ => .other

/-- Reads a string up to its closing quote; the opening one stands at `start`. Two escapes that are the
halves of a surrogate pair are one character. -/
def readString (start : Nat) : (offset : Nat) → Text → Except JsonFault (Text × Cursor)
  | _, [] => .error (.malformed .unterminated start)
  | i, .char '"' :: rest => .ok ([], ⟨rest, i + 1⟩)
  | _, [.char '\\'] => .error (.malformed .unterminated start)
  | i, .char '\\' :: .char 'u' :: a :: b :: c :: d :: e :: rest =>
    match hexFour? a b c d with
    | none => .error (.malformed .unicodeEscape (i + 1))
    | some n =>
      match if isHigh n then secondHalf (e :: rest) else .other with
      | .half m => andThen (joined n m) (readString start (i + 12) (rest.drop 5))
      | .broken => .error (.malformed .unicodeEscape (i + 7))
      | .other => andThen (.ofNat n) (readString start (i + 6) (e :: rest))
  | i, .char '\\' :: .char 'u' :: _ => .error (.malformed .unicodeEscape (i + 1))
  | i, .char '\\' :: c :: rest =>
    match unescaped? c with
    | none => .error (.malformed .escape i)
    | some c => andThen c (readString start (i + 2) rest)
  | i, c :: rest =>
    if c.toNat < 0x20 then .error (.malformed .control i)
    else andThen c (readString start (i + 1) rest)
termination_by _ t => t.length
decreasing_by all_goals (simp [List.length_drop]; try omega)

/-- Whether a code point is an ASCII digit. -/
def isDigit (c : CodePoint) : Bool := 0x30 ≤ c.toNat && c.toNat ≤ 0x39

/-- The digits at the start of a text, and what is behind them. -/
def cutDigits (t : Text) : Text × Text := (t.takeWhile isDigit, t.dropWhile isDigit)

/-- The integer part of a number: a zero, or digits that do not start with one. -/
def cutInteger? (t : Text) : Option (Text × Text) :=
  match t with
  | .char '0' :: rest => some ([.char '0'], rest)
  | _ =>
    match cutDigits t with
    | ([], _) => none
    | digits => some digits

/-- The fraction of a number, if it has one. -/
def cutFraction (t : Text) : Text × Text :=
  match t with
  | .char '.' :: rest =>
    match cutDigits rest with
    | ([], _) => ([], t)
    | digits => digits
  | _ => ([], t)

/-- The exponent of a number, if it has one. -/
def cutExponent (t : Text) : Option Int × Text :=
  let unsigned (sign : Int) (rest : Text) : Option Int × Text :=
    match cutDigits rest with
    | ([], _) => (none, t)
    | (digits, behind) => (some (sign * Numeral.value digits), behind)
  match t with
  | .char e :: rest =>
    if e = 'e' ∨ e = 'E' then
      match rest with
      | .char '-' :: digits => unsigned (-1) digits
      | .char '+' :: digits => unsigned 1 digits
      | digits => unsigned 1 digits
    else (none, t)
  | _ => (none, t)

/-- The number with the given parts: an integer if there is neither a fraction nor an exponent. -/
def number (negative : Bool) (integer fraction : Text) (exponent : Option Int) :
    Except JsonFault Scalar :=
  if fraction = [] ∧ exponent = none then
    if Numeral.digitLimit < integer.length then .error (.tooLong integer.length)
    else .ok (.int (if negative then -Numeral.value integer else Numeral.value integer))
  else
    let digits := integer ++ fraction
    .ok (.float (.ofDecimal negative (Numeral.value digits) digits.length
      (exponent.getD 0 - fraction.length)))

def readNumber (c : Cursor) : Except JsonFault (Scalar × Cursor) :=
  let negative := c.rest.head? = some (.char '-')
  match cutInteger? (if negative then c.rest.tail else c.rest) with
  | none => c.refuse .value
  | some (integer, behind) =>
    let (fraction, behind) := cutFraction behind
    let (exponent, behind) := cutExponent behind
    (number negative integer fraction exponent).map
      (·, c.advance (c.rest.length - behind.length))

/-- The words that stand for values. -/
def words : List (String × Scalar) :=
  [("null", .null), ("true", .bool true), ("false", .bool false), ("NaN", .float .nan),
    ("Infinity", .float (.infinite false)), ("-Infinity", .float (.infinite true))]

/-- Reads a word or a number. -/
def readPlain (c : Cursor) : Except JsonFault (Scalar × Cursor) :=
  match words.find? fun w => c.rest.startsWith w.1 with
  | some (word, s) => .ok (s, c.advance word.length)
  | none => readNumber c

mutual

/-- Reads a value. Each opening bracket takes at most two units of `fuel`, each comma one. -/
def readValue : (fuel : Nat) → Cursor → Except JsonFault (Json × Cursor)
  | 0, c => c.refuse .value
  | fuel + 1, c =>
    match c.rest with
    | .char '"' :: rest =>
      (readString c.offset (c.offset + 1) rest).map fun p => (.leaf (.text p.1), p.2)
    | .char '[' :: _ =>
      let inside := (c.advance 1).skipSpace
      if inside.rest.head? = some (.char ']') then .ok (.array [], inside.advance 1)
      else (readItems fuel inside).map fun p => (.array p.1, p.2)
    | .char '{' :: _ =>
      let inside := (c.advance 1).skipSpace
      if inside.rest.head? = some (.char '}') then .ok (.object [], inside.advance 1)
      else (readEntries fuel [] inside).map fun p => (.object p.1, p.2)
    | _ => (readPlain c).map fun p => (.leaf p.1, p.2)

/-- Reads the items of an array up to its closing bracket. -/
def readItems : (fuel : Nat) → Cursor → Except JsonFault (List Json × Cursor)
  | 0, c => c.refuse .value
  | fuel + 1, c => do
    let (item, behind) ← readValue fuel c
    let behind := behind.skipSpace
    match behind.rest with
    | .char ']' :: _ => return ([item], behind.advance 1)
    | .char ',' :: _ =>
      let (items, behind) ← readItems fuel (behind.advance 1).skipSpace
      return (item :: items, behind)
    | _ => behind.refuse .comma

/-- Reads the entries of an object up to its closing brace and puts them to those already read: a
repeated name keeps its place and takes the later value. -/
def readEntries : (fuel : Nat) → List (Text × Json) → Cursor →
    Except JsonFault (List (Text × Json) × Cursor)
  | 0, _, c => c.refuse .value
  | fuel + 1, before, c => do
    match c.rest with
    | .char '"' :: rest =>
      let (name, behind) ← readString c.offset (c.offset + 1) rest
      let behind := behind.skipSpace
      match behind.rest with
      | .char ':' :: _ =>
        let (value, behind) ← readValue fuel (behind.advance 1).skipSpace
        let behind := behind.skipSpace
        match behind.rest with
        | .char '}' :: _ => return (putEntry name value before, behind.advance 1)
        | .char ',' :: _ =>
          readEntries fuel (putEntry name value before) (behind.advance 1).skipSpace
        | _ => behind.refuse .comma
      | _ => behind.refuse .colon
    | _ => c.refuse .propertyName

end

/-- Reads a text that holds one value and nothing else. -/
def read (t : Text) : Except JsonFault Json := do
  if t.head? = some (.char '\uFEFF') then throw (.malformed .byteOrderMark 0)
  let (value, behind) ← readValue (2 * t.length + 2) (Cursor.skipSpace ⟨t, 0⟩)
  let behind := behind.skipSpace
  if behind.rest ≠ [] then behind.refuse .extra
  return value

end Json

end RecordPrint
