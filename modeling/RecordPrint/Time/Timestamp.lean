import RecordPrint.Time.Zone

/-!
# Dates, times of day and timestamps

Two ways to write a timestamp: the ISO form, which sorts and parses, and the long form of table cells,
`2006-01-02 15:04:05.5 +0000 UTC`. Both ask the zone for its offset, and the long form asks a zone that
has one for its daylight saving time and its name as well. They fail with the fault of the first answer
that is one, or that is refused.
-/

namespace RecordPrint

structure Date where
  year : Nat
  month : Nat
  day : Nat
  deriving DecidableEq

/-- A time of day. -/
structure Clock where
  hour : Nat
  minute : Nat
  second : Nat
  micro : Nat
  deriving DecidableEq

/-- A time of day in a zone, or in no zone in particular. -/
structure ZonedClock where
  clock : Clock
  zone : Option Zone
  deriving DecidableEq

/-- A date and time of day in a zone, or in no zone in particular. -/
structure Timestamp where
  date : Date
  clock : Clock
  zone : Option Zone
  deriving DecidableEq

def Date.iso (d : Date) : Text :=
  Numeral.padded 4 d.year ++ .char '-' :: twoDigits d.month ++ .char '-' :: twoDigits d.day

namespace Clock

/-- Hours, minutes and seconds. -/
def toSeconds (c : Clock) : Text :=
  twoDigits c.hour ++ .char ':' :: twoDigits c.minute ++ .char ':' :: twoDigits c.second

/-- A time of day in ISO form: the fraction has six places or is left out. -/
def iso (c : Clock) : Text := c.toSeconds ++ if c.micro = 0 then [] else sixPlaces c.micro

/-- A time of day whose fraction has as many places as it needs. -/
def long (c : Clock) : Text :=
  c.toSeconds ++
    if c.micro = 0 then [] else ((sixPlaces c.micro).reverse.dropWhile (· = .char '0')).reverse

end Clock

/-- The offset that an ISO form ends in: nothing without a zone or where the zone reports none. -/
def isoOffset : Option Zone → Except Fault Text
  | none => .ok []
  | some z => (Zone.admitted z.offset).map fun o => (o.map (offsetText ":")).getD []

/-- A time of day in ISO form. -/
def ZonedClock.iso (t : ZonedClock) : Except Fault Text := (isoOffset t.zone).map (t.clock.iso ++ ·)

namespace Timestamp

/-- A timestamp in ISO form, with `sep` between date and time. -/
def iso (sep : CodePoint) (t : Timestamp) : Except Fault Text :=
  (isoOffset t.zone).map fun offset => t.date.iso ++ sep :: t.clock.iso ++ offset

/-- The offset and the name of UTC. -/
def utc : Int × Option Text := (0, some "UTC")

/-- The offset and the name that the long form shows: those of UTC if the timestamp has no zone or its
zone reports no offset. -/
def shownZone (t : Timestamp) : Except Fault (Int × Option Text) := do
  match t.zone with
  | none => return utc
  | some z =>
    match ← Zone.admitted z.offset with
    | none => return utc
    | some offset =>
      -- nothing is shown of the daylight saving time, but it is asked for
      let _ ← Zone.admitted z.saving
      return (offset, ← z.name)

/-- What the long form ends in. The zone goes by its name, by the offset if it has none, and also by the
offset if the name is one that only spells the offset out. -/
def zoneText (offset : Int) (name : Option Text) : Text :=
  let offset : Text := offsetText [] offset
  let name : Text := match name with
    | none | some [] => offset
    | some n => n
  offset ++ .char ' ' :: if name.startsWith "UTC" ∧ name ≠ ("UTC" : Text) then offset else name

/-- A timestamp in long form. -/
def long (t : Timestamp) : Except Fault Text :=
  t.shownZone.map fun zone =>
    t.date.iso ++ .char ' ' :: t.clock.long ++ .char ' ' :: zoneText zone.1 zone.2

end Timestamp

end RecordPrint
