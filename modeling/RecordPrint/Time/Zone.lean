import RecordPrint.Fault

/-!
# Time zones

A zone is a fixed offset from UTC with or without a name of its own, or a clock that answers for its
offset, its daylight saving time and its name whatever it likes: that it has none, or with a fault.
Offsets are counted in microseconds, and those of a day or more are refused.
-/

namespace RecordPrint

/-- A time zone. Offsets are in microseconds east of UTC. -/
inductive Zone where
  /-- A fixed offset; without a name of its own it is called after the offset. -/
  | fixed (offset : Int) (name : Option Text)
  /-- A clock with what it answers each time it is asked. -/
  | reported (offset saving : Except Fault (Option Int)) (name : Except Fault (Option Text))
  deriving DecidableEq

def microsPerDay : Int := 86400 * 1000000

/-- A number below a hundred with two digits. -/
def twoDigits (n : Nat) : Text := Numeral.padded 2 n

/-- A fraction of a second with all six places, point included. -/
def sixPlaces (micro : Nat) : Text := .char '.' :: Numeral.padded 6 micro

/-- An offset as sign, hours and minutes, with `sep` in between; seconds and microseconds follow only if
they are not zero. -/
def offsetText (sep : Text) (offset : Int) : Text :=
  let micros := offset.natAbs
  let seconds := micros / 1000000
  let micro := micros % 1000000
  (if offset < 0 then .char '-' else .char '+') :: twoDigits (seconds / 3600) ++
    sep ++ twoDigits (seconds / 60 % 60) ++
    (if seconds % 60 = 0 ∧ micro = 0 then [] else sep ++ twoDigits (seconds % 60)) ++
    (if micro = 0 then [] else sixPlaces micro)

namespace Zone

/-- What a zone answers for its offset. -/
def offset : Zone → Except Fault (Option Int)
  | fixed o _ => .ok (some o)
  | reported o _ _ => o

/-- What a zone answers for the part of its offset that is daylight saving time. -/
def saving : Zone → Except Fault (Option Int)
  | fixed _ _ => .ok none
  | reported _ s _ => s

/-- What a zone answers for its name. -/
def name : Zone → Except Fault (Option Text)
  | fixed _ (some n) => .ok (some n)
  | fixed o none => .ok (some (if o = 0 then "UTC" else "UTC" ++ offsetText ":" o))
  | reported _ _ n => n

/-- An answer for an offset, where a day or more is refused. -/
def admitted (answer : Except Fault (Option Int)) : Except Fault (Option Int) := do
  match ← answer with
  | none => return none
  | some o => if -microsPerDay < o && o < microsPerDay then return some o else throw .offsetRange

end Zone

end RecordPrint
