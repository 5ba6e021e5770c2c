import RecordPrint.Text.Quoted
import RecordPrint.Number.Numeral

/-!
# UTF-8

Encoding writes each character as one to four bytes and refuses code points that are no characters.
Decoding accepts exactly what encoding writes. Both refusals say where the trouble is and how far it
goes.
-/

namespace RecordPrint

/-- A run of lone surrogates, which has no encoding. -/
structure EncodeFault where
  /-- The first code point of the run. -/
  first : CodePoint
  start : Nat
  /-- The number of surrogates that follow the first one. -/
  more : Nat
  deriving DecidableEq

/-- What is wrong with bytes that are no encoding. -/
inductive DecodeProblem where
  | start
  | continuation
  | truncated
  deriving DecidableEq

/-- Bytes that are no encoding of anything. -/
structure DecodeFault where
  problem : DecodeProblem
  /-- The first byte of the broken sequence. -/
  first : UInt8
  position : Nat
  /-- The number of sound bytes behind the first one. -/
  more : Nat
  deriving DecidableEq

/-- A position, or the first and the last of several. -/
def positionText (start more : Nat) : Text :=
  if more = 0 then Numeral.ofNat start
  else Numeral.ofNat start ++ .char '-' :: Numeral.ofNat (start + more)

namespace EncodeFault

def message (f : EncodeFault) : Text :=
  let subject : Text :=
    if f.more = 0 then "character '" ++ f.first.numericEscape ++ "' in position "
    else "characters in position "
  "'utf-8' codec can't encode " ++ subject ++ positionText f.start f.more ++
    ": surrogates not allowed"

end EncodeFault

/-- The description of what is wrong with bytes. -/
def DecodeProblem.message : DecodeProblem → Text
  | start => "invalid start byte"
  | continuation => "invalid continuation byte"
  | truncated => "unexpected end of data"

def DecodeFault.message (f : DecodeFault) : Text :=
  let subject : Text :=
    if f.more = 0 then "byte 0x" ++ hexText 2 f.first.toNat ++ " in position " else "bytes in position "
  "'utf-8' codec can't decode " ++ subject ++ positionText f.position f.more ++ ": " ++
    f.problem.message

namespace Utf8

/-- The last six of the bits of a number, as a continuation byte. -/
def continuation (n : Nat) : UInt8 := .ofNat (0x80 + n % 64)

/-- The bytes of a character number. -/
def bytesOf (n : Nat) : List UInt8 :=
  if n < 0x80 then [.ofNat n]
  else if n < 0x800 then [.ofNat (0xC0 + n / 64), continuation n]
  else if n < 0x10000 then [.ofNat (0xE0 + n / 4096), continuation (n / 64), continuation n]
  else [.ofNat (0xF0 + n / 262144), continuation (n / 4096), continuation (n / 64), continuation n]

/-- The bytes of a text whose code points are all characters; others are left out. -/
def encodeChars (t : Text) : List UInt8 :=
  t.flatMap fun
    | .char c => bytesOf c.toNat
    | .surrogate _ => []

/-- The first run of lone surrogates of a text that stands behind `position` code points. -/
def surrogates? (position : Nat) : Text → Option EncodeFault
  | [] => none
  | .char _ :: t => surrogates? (position + 1) t
  | .surrogate u :: t =>
    some ⟨.surrogate u, position, (t.takeWhile fun c => c matches .surrogate _).length⟩

def encode (t : Text) : Except EncodeFault (List UInt8) :=
  match surrogates? 0 t with
  | some f => .error f
  | none => .ok (encodeChars t)

/-- What the first byte of a longer sequence tells: the number of bytes to come, the bits it carries
itself, and the range of the second byte. -/
structure Lead where
  count : Nat
  bits : Nat
  low : Nat
  high : Nat

/-- What the first byte of a longer sequence tells. -/
def lead? (b : Nat) : Option Lead :=
  if b < 0xC2 then none
  else if b < 0xE0 then some ⟨1, b - 0xC0, 0x80, 0xBF⟩
  else if b < 0xF0 then
    some ⟨2, b - 0xE0, if b = 0xE0 then 0xA0 else 0x80, if b = 0xED then 0x9F else 0xBF⟩
  else if b < 0xF5 then
    some ⟨3, b - 0xF0, if b = 0xF0 then 0x90 else 0x80, if b = 0xF4 then 0x8F else 0xBF⟩
  else none

/-- Reads `count` continuation bytes, of which the first lies between `low` and `high`: the number that
they complete and the bytes that are left. What goes wrong is told with the number of sound bytes. -/
def readTail (low high : Nat) : (count sound bits : Nat) → (bytes : List UInt8) →
    Except (DecodeProblem × Nat) (Nat × List UInt8)
  | 0, _, bits, bytes => .ok (bits, bytes)
  | _ + 1, sound, _, [] => .error (.truncated, sound)
  | count + 1, sound, bits, b :: bytes =>
    if low ≤ b.toNat ∧ b.toNat ≤ high then
      readTail 0x80 0xBF count (sound + 1) (bits * 64 + (b.toNat - 0x80)) bytes
    else .error (.continuation, sound)

theorem length_readTail {low high count sound bits : Nat} {bytes rest : List UInt8} {n : Nat}
    (h : readTail low high count sound bits bytes = .ok (n, rest)) : rest.length ≤ bytes.length := by
  fun_induction readTail low high count sound bits bytes with
  | case1 => cases h; exact Nat.le_refl _
  | case2 => cases h
  | case3 low high count sound bits b bytes hb ih => exact Nat.le_succ_of_le (ih h)
  | case4 => cases h

/-- The text that bytes standing behind `position` others encode. -/
def decodeFrom (position : Nat) (bytes : List UInt8) : Except DecodeFault Text :=
  match bytes with
  | [] => .ok []
  | b :: rest =>
    if b.toNat < 0x80 then (decodeFrom (position + 1) rest).map (CodePoint.ofNat b.toNat :: ·)
    else match lead? b.toNat with
      | none => .error ⟨.start, b, position, 0⟩
      | some lead =>
        match _tail : readTail lead.low lead.high lead.count 0 lead.bits rest with
        | .error (problem, sound) => .error ⟨problem, b, position, sound⟩
        | .ok (n, left) =>
          (decodeFrom (position + 1 + lead.count) left).map (CodePoint.ofNat n :: ·)
termination_by bytes.length
decreasing_by
  · simp
  · exact Nat.lt_succ_of_le (length_readTail _tail)

def decode (bytes : List UInt8) : Except DecodeFault Text := decodeFrom 0 bytes

end Utf8

end RecordPrint
