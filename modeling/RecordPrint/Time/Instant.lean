import RecordPrint.Time.Timestamp

/-!
# Instants

Two timestamps whose zones report offsets are the same if they name one instant, in whatever zones; two
whose zones report none are the same if they read the same. One with and one without an offset are never
the same. This holds of times of day too, which are the same only if their fractions of a second read
the same as well. A zone that answers with a fault counts as one that reports no offset.
-/

namespace RecordPrint

namespace Date

/-- Whether the year of a date has a day more. -/
def inLeapYear (d : Date) : Bool := d.year % 4 = 0 && (d.year % 100 ≠ 0 || d.year % 400 = 0)

/-- The days of a year in front of a month, in years without the additional day. -/
def daysBeforeMonth : List Nat := [0, 31, 59, 90, 120, 151, 181, 212, 243, 273, 304, 334]

/-- The number of days from the beginning of the calendar to a date. -/
def dayNumber (d : Date) : Nat :=
  let years := d.year - 1
  365 * years + years / 4 - years / 100 + years / 400 + daysBeforeMonth.getD (d.month - 1) 0 +
    (if d.inLeapYear ∧ 2 < d.month then 1 else 0) + d.day

end Date

/-- The microseconds from midnight to a time of day. -/
def Clock.micros (c : Clock) : Int := ((c.hour * 60 + c.minute) * 60 + c.second) * 1000000 + c.micro

/-- The offset that the zone of a timestamp reports, if it has a zone. -/
def reportedOffset (zone : Option Zone) : Option Int := zone.bind fun z => z.offset.toOption.join

def Timestamp.isSame (s t : Timestamp) : Bool :=
  let micros (t : Timestamp) : Int := t.date.dayNumber * microsPerDay + t.clock.micros
  match reportedOffset s.zone, reportedOffset t.zone with
  | some a, some b => micros s - a = micros t - b
  | none, none => s.date = t.date && s.clock = t.clock
  | _, _ => false

/-- Whether two times of day are the same. -/
def ZonedClock.isSame (s t : ZonedClock) : Bool :=
  match reportedOffset s.zone, reportedOffset t.zone with
  | some a, some b => s.clock.micros - a = t.clock.micros - b && s.clock.micro = t.clock.micro
  | none, none => s.clock = t.clock
  | _, _ => false

end RecordPrint
