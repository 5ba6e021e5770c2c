import RecordPrint.Text.Quoted
import RecordPrint.Time.Timestamp

/-!
# Times inside other values

How dates, times of day and timestamps are shown as parts of other values: by what makes them, with all
that is zero at the end of a time of day left out.
-/

namespace RecordPrint

/-- Something as a call of what makes it. -/
def madeBy (maker : Text) (arguments : List Text) : Text :=
  maker ++ .char '(' :: Text.join ", " arguments ++ [.char ')']

/-- A duration in microseconds as its days, seconds and microseconds; only the days can be negative. -/
def shownDuration (micros : Int) : Text :=
  let part (name : Text) (n : Int) : List Text := if n = 0 then [] else [name ++ .char '=' :: Numeral.ofInt n]
  let within := micros % microsPerDay
  match part "days" (micros / microsPerDay) ++ part "seconds" (within / 1000000) ++
    part "microseconds" (within % 1000000) with
  | [] => madeBy "datetime.timedelta" ["0"]
  | parts => madeBy "datetime.timedelta" parts

/-- A zone as a part of other values. -/
def Zone.shown : Zone → Text
  | fixed o none => if o = 0 then "datetime.timezone.utc" else madeBy "datetime.timezone" [shownDuration o]
  | fixed o (some n) => madeBy "datetime.timezone" [shownDuration o, n.quoted]
  | reported _ _ _ => "tzinfo"

def shownZoneArguments (z : Option Zone) : List Text :=
  z.toList.map fun z => ("tzinfo=" : Text) ++ z.shown

def Date.shownArguments (d : Date) : List Text := [d.year, d.month, d.day].map Numeral.ofNat

/-- The arguments for a time of day. -/
def Clock.shownArguments (c : Clock) : List Text :=
  let seconds := if c.micro = 0 then if c.second = 0 then [] else [c.second] else [c.second, c.micro]
  (c.hour :: c.minute :: seconds).map Numeral.ofNat

/-- A date as a part of other values. -/
def Date.shown (d : Date) : Text := madeBy "datetime.date" d.shownArguments

/-- A time of day as a part of other values. -/
def ZonedClock.shown (t : ZonedClock) : Text :=
  madeBy "datetime.time" (t.clock.shownArguments ++ shownZoneArguments t.zone)

/-- A timestamp as a part of other values. -/
def Timestamp.shown (t : Timestamp) : Text :=
  madeBy "datetime.datetime"
    (t.date.shownArguments ++ t.clock.shownArguments ++ shownZoneArguments t.zone)

end RecordPrint
