import RecordPrint.Proofs.Number.Places
import RecordPrint.Proofs.Table.Cells
import RecordPrint.Proofs.Text.Lines
import RecordPrint.Time.Instant

/-!
# Cells of timestamps

The long form of a timestamp is read back by the places of its parts. Date, hours, minutes and seconds have fixed
places. The fraction ends at the first blank behind them and the offset at the next one, so the name of the zone may be
any text.

* `LongForm.ofOffsetText_offsetText` — an offset of less than a day is read back from its text;
* `LongForm.isTrimmedFraction_longFraction`, `LongForm.micro_longFraction` — so is a fraction without the zeros at its
  end;
* `cell_of_timestamp` — so is the timestamp from its cell, with its offset, and timestamps that have the same cell have
  the same local time and name the same instant.
-/

namespace RecordPrint

open Numeral (value padded IsDigits isDigits_append isDigits_padded)

/-! ### Digits at fixed places -/

/-- The number that the digits at some places of a text denote. -/
def Text.numberAt (t : Text) (start count : Nat) : Nat := value ((t.drop start).take count)

theorem exists_twoDigits {n : Nat} (hn : n < 100) : ∃ a b, twoDigits n = [a, b] ∧ value [a, b] = n := by
  obtain ⟨a, b, h⟩ := List.length_eq_two.1 (Numeral.length_padded (by decide) hn)
  exact ⟨a, b, h, by rw [← h, Numeral.value_padded]⟩

theorem exists_fourDigits {n : Nat} (hn : n < 10000) :
    ∃ a b c d, padded 4 n = [a, b, c, d] ∧ value [a, b, c, d] = n := by
  obtain ⟨a, b, c, d, h⟩ := List.length_eq_four.1 (Numeral.length_padded (by decide) hn)
  exact ⟨a, b, c, d, h, by rw [← h, Numeral.value_padded]⟩

theorem blank_notMem {t : Text} (h : IsDigits t) : CodePoint.char ' ' ∉ t := by
  intro hmem
  exact absurd (h _ hmem) (by decide)

/-! ### Offsets -/

/-- The digits of an offset: hours and minutes, and seconds and a fraction if there are some. -/
def offsetDigits (micros : Nat) : Text :=
  twoDigits (micros / 1000000 / 3600) ++ twoDigits (micros / 1000000 / 60 % 60) ++
    (if micros / 1000000 % 60 = 0 ∧ micros % 1000000 = 0 then [] else twoDigits (micros / 1000000 % 60)) ++
    (if micros % 1000000 = 0 then [] else sixPlaces (micros % 1000000))

theorem offsetText_eq (o : Int) :
    offsetText [] o = (if o < 0 then .char '-' else .char '+') :: offsetDigits o.natAbs := by
  simp [offsetText, offsetDigits]

theorem blank_notMem_offsetText (o : Int) : CodePoint.char ' ' ∉ offsetText [] o := by
  have htwo : ∀ n, CodePoint.char ' ' ∉ twoDigits n := fun n => blank_notMem (isDigits_padded 2 n)
  have hsix : ∀ n, CodePoint.char ' ' ∉ padded 6 n := fun n => blank_notMem (isDigits_padded 6 n)
  rw [offsetText_eq, offsetDigits]
  split_ifs <;> simp [htwo, hsix, sixPlaces]

namespace LongForm

/-- The microseconds that the digits of an offset behind its sign stand for. -/
def magnitude (t : Text) : Nat :=
  ((t.numberAt 1 2 * 60 + t.numberAt 3 2) * 60 + t.numberAt 5 2) * 1000000 + t.numberAt 8 6

/-- The offset in microseconds that a text stands for. -/
def ofOffsetText (t : Text) : Int := if t.head? = some (.char '-') then -(magnitude t : Int) else magnitude t

theorem magnitude_cons (sign a b c d : CodePoint) (rest : Text) : magnitude (sign :: a :: b :: c :: d :: rest) =
    ((value [a, b] * 60 + value [c, d]) * 60 + value (rest.take 2)) * 1000000 + value ((rest.drop 3).take 6) := rfl

theorem magnitude_offsetDigits {micros : Nat} (h : micros < 86400000000) (sign : CodePoint) :
    magnitude (sign :: offsetDigits micros) = micros := by
  obtain ⟨a, b, hhours, hours⟩ := exists_twoDigits (n := micros / 1000000 / 3600) (by omega)
  obtain ⟨c, d, hminutes, minutes⟩ := exists_twoDigits (n := micros / 1000000 / 60 % 60) (by omega)
  obtain ⟨e, f, hseconds, seconds⟩ := exists_twoDigits (n := micros / 1000000 % 60) (by omega)
  have hmicro : (padded 6 (micros % 1000000)).take 6 = padded 6 (micros % 1000000) := by
    refine List.take_of_length_le (Nat.le_of_eq (Numeral.length_padded (by decide) ?_))
    omega
  rw [offsetDigits, hhours, hminutes, hseconds]
  simp only [List.cons_append, List.nil_append]
  rw [magnitude_cons, hours, minutes]
  by_cases hfraction : micros % 1000000 = 0
  · by_cases hwhole : micros / 1000000 % 60 = 0
    · rw [if_pos ⟨hwhole, hfraction⟩, if_pos hfraction]
      show ((_ * 60 + _) * 60 + 0) * 1000000 + 0 = micros
      omega
    · rw [if_neg (fun h => hwhole h.1), if_pos hfraction]
      show ((_ * 60 + _) * 60 + value [e, f]) * 1000000 + 0 = micros
      omega
  · rw [if_neg (fun h => hfraction h.2), if_neg hfraction]
    show ((_ * 60 + _) * 60 + value [e, f]) * 1000000 + value ((padded 6 (micros % 1000000)).take 6) = micros
    rw [hmicro, Numeral.value_padded]
    omega

theorem ofOffsetText_offsetText {o : Int} (h : |o| < microsPerDay) : ofOffsetText (offsetText [] o) = o := by
  have hday : o.natAbs < 86400000000 := by
    rw [Int.abs_eq_natAbs] at h
    have : microsPerDay = 86400000000 := rfl
    omega
  rw [offsetText_eq, ofOffsetText, magnitude_offsetDigits hday, List.head?_cons]
  by_cases hneg : o < 0
  · rw [if_pos hneg, if_pos rfl]
    omega
  · have hplus : some (CodePoint.char '+') ≠ some (.char '-') := by decide
    rw [if_neg hneg, if_neg hplus]
    omega

/-! ### Fractions -/

/-- The microseconds that a fraction of at most six places stands for. -/
def micro (fraction : Text) : Nat := value fraction.tail * 10 ^ (6 - fraction.tail.length)

/-- A fraction of a second is left out exactly where it is zero, and is a point and digits that do not end in a zero
otherwise. -/
structure IsTrimmedFraction (micro : Nat) (t : Text) : Prop where
  absent : t = [] ↔ micro = 0
  point : t ≠ [] → ∃ ds, ds ≠ [] ∧ IsDigits ds ∧ t = .char '.' :: ds
  last : t.getLast? ≠ some (.char '0')

end LongForm

/-- The fraction of a second that a time of day has in long form. -/
def Clock.longFraction (c : Clock) : Text :=
  if c.micro = 0 then [] else ((sixPlaces c.micro).reverse.dropWhile (· = .char '0')).reverse

theorem Clock.long_eq (c : Clock) : c.long = c.toSeconds ++ c.longFraction := rfl

/-- A fraction of a second other than zero is a point and digits, which are the six places without the zeros at their
end. -/
theorem Clock.exists_longFraction {c : Clock} (hm : c.micro ≠ 0) :
    ∃ ds z, c.longFraction = .char '.' :: ds ∧ padded 6 c.micro = ds ++ List.replicate z (.char '0') := by
  obtain ⟨z, hz⟩ := Numeral.exists_trimmed (sixPlaces c.micro)
  rw [longFraction, if_neg hm]
  generalize ((sixPlaces c.micro).reverse.dropWhile (· = .char '0')).reverse = trimmed at hz ⊢
  cases trimmed with
  | nil =>
    -- the point is no zero
    have hpoint : CodePoint.char '.' ∈ List.replicate z (.char '0') := by
      rw [← List.nil_append (List.replicate z _), ← hz]
      exact List.mem_cons_self
    exact absurd (List.eq_of_mem_replicate hpoint) (by decide)
  | cons p ds =>
    rw [sixPlaces, List.cons_append, List.cons.injEq] at hz
    exact ⟨ds, z, by rw [hz.1], hz.2⟩

namespace LongForm

theorem isTrimmedFraction_longFraction (c : Clock) : IsTrimmedFraction c.micro c.longFraction := by
  by_cases hm : c.micro = 0
  · have hempty : c.longFraction = [] := if_pos hm
    rw [hempty]
    exact ⟨⟨fun _ => hm, fun _ => rfl⟩, fun h => absurd rfl h, by simp⟩
  · obtain ⟨ds, z, hfraction, hds⟩ := Clock.exists_longFraction hm
    have hdigits : IsDigits ds := (isDigits_append.1 (hds ▸ isDigits_padded 6 c.micro)).1
    have hne : ds ≠ [] := by
      rintro rfl
      have hvalue := Numeral.value_padded 6 c.micro
      rw [hds, List.nil_append, Numeral.value_replicate_zero] at hvalue
      exact hm hvalue.symm
    refine ⟨⟨fun h => ?_, fun h => absurd h hm⟩, fun _ => ⟨ds, hne, hdigits, hfraction⟩, ?_⟩
    · rw [hfraction] at h
      cases h
    · rw [Clock.longFraction, if_neg hm, List.getLast?_reverse]
      intro hzero
      have hnot := List.head?_dropWhile_not (· = CodePoint.char '0') (sixPlaces c.micro).reverse
      rw [hzero] at hnot
      exact absurd hnot (by decide)

/-- The digits of a fraction other than zero, which zeros fill up to six places. -/
theorem exists_fractionDigits {c : Clock} (hm : c.micro ≠ 0) (hc : c.micro < 1000000) :
    ∃ ds z, c.longFraction = .char '.' :: ds ∧ padded 6 c.micro = ds ++ List.replicate z (.char '0') ∧
      ds.length + z = 6 ∧ IsDigits ds ∧ ds.getLast? ≠ some (.char '0') := by
  obtain ⟨ds, z, hfraction, hds⟩ := Clock.exists_longFraction hm
  have hlength := Numeral.length_padded (show 0 < 6 by decide) hc
  rw [hds, List.length_append, List.length_replicate] at hlength
  refine ⟨ds, z, hfraction, hds, hlength, (isDigits_append.1 (hds ▸ isDigits_padded 6 c.micro)).1, ?_⟩
  have hlast := (isTrimmedFraction_longFraction c).last
  rw [hfraction] at hlast
  exact Numeral.last_ne_of_cons hlast

/-- A fraction is read back as its microseconds. -/
theorem micro_longFraction {c : Clock} (hc : c.micro < 1000000) : micro c.longFraction = c.micro := by
  by_cases hm : c.micro = 0
  · rw [Clock.longFraction, if_pos hm, hm]
    rfl
  · obtain ⟨ds, z, hfraction, hds, hlength, -⟩ := exists_fractionDigits hm hc
    have hvalue : value ds * 10 ^ z = c.micro := by
      have hpadded := Numeral.value_padded 6 c.micro
      rw [hds, Numeral.value_append, Numeral.value_replicate_zero, List.length_replicate, Nat.add_zero] at hpadded
      exact hpadded
    rw [micro, hfraction, List.tail_cons, show 6 - ds.length = z by omega, hvalue]

theorem blank_notMem_longFraction (c : Clock) : CodePoint.char ' ' ∉ c.longFraction := by
  have hfraction := isTrimmedFraction_longFraction c
  by_cases hempty : c.longFraction = []
  · rw [hempty]
    exact List.not_mem_nil
  · obtain ⟨ds, -, hdigits, hds⟩ := hfraction.point hempty
    rw [hds]
    simp [blank_notMem hdigits]

/-! ### The long form -/

def date (t : Text) : Date := ⟨t.numberAt 0 4, t.numberAt 5 2, t.numberAt 8 2⟩

/-- The fraction of a second with its point, if there is one. -/
def fraction (t : Text) : Text := (Text.cut (.char ' ') (t.drop 19)).1

def clock (t : Text) : Clock := ⟨t.numberAt 11 2, t.numberAt 14 2, t.numberAt 17 2, micro (fraction t)⟩

/-- The offset in microseconds. -/
def offset (t : Text) : Int :=
  ofOffsetText (Text.cut (.char ' ') ((Text.cut (.char ' ') (t.drop 19)).2.getD [])).1

end LongForm

namespace Timestamp

/-- The offset of a timestamp, which is zero if it has no zone or its zone reports none. -/
def utcOffset (t : Timestamp) : Int := (reportedOffset t.zone).getD 0

/-- The instant that a timestamp names, in microseconds. -/
def instant (t : Timestamp) : Int := t.date.dayNumber * microsPerDay + t.clock.micros - t.utcOffset

/-- The parts of a timestamp are those of a calendar and a clock, its zone answers, and the offset that it may report is
less than a day. -/
structure IsCivil (t : Timestamp) : Prop where
  year : t.date.year ≤ 9999
  month : t.date.month ≤ 12
  day : t.date.day ≤ 31
  hour : t.clock.hour < 24
  minute : t.clock.minute < 60
  second : t.clock.second < 60
  micro : t.clock.micro < 1000000
  offset : ∀ o, reportedOffset t.zone = some o → |o| < microsPerDay
  answers : ∀ z ∈ t.zone, z.answers = true

theorem IsCivil.abs_utcOffset_lt {t : Timestamp} (ht : t.IsCivil) : |t.utcOffset| < microsPerDay := by
  rw [utcOffset]
  cases h : reportedOffset t.zone with
  | none => decide
  | some o => exact ht.offset o h

/-- Two timestamps whose zones report offsets are the same if they name the same instant. -/
theorem isSame_iff_instant_eq {s t : Timestamp} {a b : Int} (hs : reportedOffset s.zone = some a)
    (ht : reportedOffset t.zone = some b) : s.isSame t = true ↔ s.instant = t.instant := by
  simp [isSame, instant, utcOffset, hs, ht]

/-- The date and the time of day to the second, in long form. -/
def longSeconds (t : Timestamp) : Text := t.date.iso ++ .char ' ' :: t.clock.toSeconds

/-- The parts of the long form: what has fixed places, the fraction, the offset, and the name of the zone. -/
theorem IsCivil.exists_long {t : Timestamp} (ht : t.IsCivil) : ∃ name, t.long =
    .ok (t.longSeconds ++
      (t.clock.longFraction ++ .char ' ' :: (offsetText [] t.utcOffset ++ .char ' ' :: name))) := by
  obtain ⟨shown, hshown⟩ := exists_shownZone ht.answers ht.offset
  obtain ⟨name, hname⟩ : ∃ name, zoneText t.utcOffset shown = offsetText [] t.utcOffset ++ .char ' ' :: name := ⟨_, rfl⟩
  refine ⟨name, ?_⟩
  rw [long, hshown, Except.map, ← utcOffset, hname, Clock.long_eq, longSeconds]
  simp only [List.append_assoc, List.cons_append]

/-- Whatever stands behind them, the date and the time of day to the second are read back, and what stands behind them
starts at a fixed place. -/
theorem IsCivil.read_longSeconds {t : Timestamp} (ht : t.IsCivil) (rest : Text) :
    LongForm.date (t.longSeconds ++ rest) = t.date ∧ (t.longSeconds ++ rest).drop 19 = rest ∧
      LongForm.clock (t.longSeconds ++ rest) =
        ⟨t.clock.hour, t.clock.minute, t.clock.second, LongForm.micro (Text.cut (.char ' ') rest).1⟩ := by
  obtain ⟨y₁, y₂, y₃, y₄, hyear, year⟩ := exists_fourDigits (n := t.date.year) (by have := ht.year; omega)
  obtain ⟨m₁, m₂, hmonth, month⟩ := exists_twoDigits (n := t.date.month) (by have := ht.month; omega)
  obtain ⟨d₁, d₂, hday, day⟩ := exists_twoDigits (n := t.date.day) (by have := ht.day; omega)
  obtain ⟨h₁, h₂, hhour, hour⟩ := exists_twoDigits (n := t.clock.hour) (by have := ht.hour; omega)
  obtain ⟨n₁, n₂, hminute, minute⟩ := exists_twoDigits (n := t.clock.minute) (by have := ht.minute; omega)
  obtain ⟨s₁, s₂, hsecond, second⟩ := exists_twoDigits (n := t.clock.second) (by have := ht.second; omega)
  have hplaces : t.longSeconds ++ rest =
      [y₁, y₂, y₃, y₄, .char '-', m₁, m₂, .char '-', d₁, d₂, .char ' ', h₁, h₂, .char ':', n₁, n₂, .char ':', s₁, s₂] ++
        rest := by
    rw [longSeconds, Date.iso, Clock.toSeconds, hyear, hmonth, hday, hhour, hminute, hsecond]
    rfl
  rw [hplaces]
  refine ⟨?_, rfl, ?_⟩
  · simp [LongForm.date, Text.numberAt, year, month, day]
  · simp [LongForm.clock, LongForm.fraction, Text.numberAt, hour, minute, second]

end Timestamp

namespace Value

open LongForm (IsTrimmedFraction)

/-- A timestamp and its offset are read back from its cell. -/
theorem read_cell {t : Timestamp} (ht : t.IsCivil) : ∃ text, (Value.timestamp t).cell = .ok text ∧
    LongForm.date text = t.date ∧ LongForm.clock text = t.clock ∧ LongForm.offset text = t.utcOffset ∧
      LongForm.fraction text = t.clock.longFraction := by
  obtain ⟨name, hlong⟩ := ht.exists_long
  generalize hrest : offsetText [] t.utcOffset ++ .char ' ' :: name = rest at hlong
  obtain ⟨hdate, hdrop, hclock⟩ := ht.read_longSeconds (t.clock.longFraction ++ .char ' ' :: rest)
  have hcut : Text.cut (.char ' ') (t.clock.longFraction ++ .char ' ' :: rest) = (t.clock.longFraction, some rest) :=
    Text.cut_append (LongForm.blank_notMem_longFraction t.clock) rest
  refine ⟨_, hlong, hdate, ?_, ?_, ?_⟩
  · rw [hclock, hcut, LongForm.micro_longFraction ht.micro]
  · rw [LongForm.offset, hdrop, hcut, Option.getD_some, ← hrest, Text.cut_append (blank_notMem_offsetText _),
      LongForm.ofOffsetText_offsetText ht.abs_utcOffset_lt]
  · rw [LongForm.fraction, hdrop, hcut]

/-- The cell of a timestamp is read back: date, time of day and offset, which is zero for one without. It has a fraction
exactly if there are microseconds, without zeros at its end. So timestamps that have the same cell have the same local
time and name the same instant. -/
theorem cell_of_timestamp {t : Timestamp} (ht : t.IsCivil) : ∃ text, (Value.timestamp t).cell = .ok text ∧
    LongForm.date text = t.date ∧ LongForm.clock text = t.clock ∧ LongForm.offset text = t.utcOffset ∧
      IsTrimmedFraction t.clock.micro (LongForm.fraction text) ∧
      ∀ s : Timestamp, s.IsCivil → (Value.timestamp s).cell = .ok text →
        s.date = t.date ∧ s.clock = t.clock ∧ s.instant = t.instant := by
  obtain ⟨text, hcell, hdate, hclock, hoffset, hfraction⟩ := read_cell ht
  refine ⟨text, hcell, hdate, hclock, hoffset, ?_, ?_⟩
  · rw [hfraction]
    exact LongForm.isTrimmedFraction_longFraction t.clock
  · intro s hs hsame
    obtain ⟨text', hcell', hdate', hclock', hoffset', -⟩ := read_cell hs
    rw [hsame] at hcell'
    cases hcell'
    have same_date : s.date = t.date := hdate'.symm.trans hdate
    have same_clock : s.clock = t.clock := hclock'.symm.trans hclock
    have same_offset : s.utcOffset = t.utcOffset := hoffset'.symm.trans hoffset
    refine ⟨same_date, same_clock, ?_⟩
    rw [Timestamp.instant, Timestamp.instant, same_date, same_clock, same_offset]

/-- A moment in a zone that is one second and a half behind, whose name holds blanks. -/
def leapMoment (z : Zone) : Timestamp := ⟨⟨2024, 2, 29⟩, ⟨23, 59, 59, 500000⟩, some z⟩

theorem isCivil_leapMoment {z : Zone} (h : z.offset = .ok (some (-1500000))) (hanswers : z.answers = true) :
    (leapMoment z).IsCivil where
  year := by simp [leapMoment]
  month := by simp [leapMoment]
  day := by simp [leapMoment]
  hour := by simp [leapMoment]
  minute := by simp [leapMoment]
  second := by simp [leapMoment]
  micro := by simp [leapMoment]
  offset := by
    intro o ho
    rw [reportedOffset, show (leapMoment z).zone = some z from rfl, Option.bind_some, h] at ho
    cases ho
    decide
  answers := by
    intro z' hz'
    cases hz'
    exact hanswers

theorem cell_of_timestamp_leapMoment :
    (leapMoment (.fixed (-1500000) (some "behind by 2"))).IsCivil ∧
      (Value.timestamp (leapMoment (.fixed (-1500000) (some "behind by 2")))).cell =
        .ok "2024-02-29 23:59:59.5 -000001.500000 behind by 2" ∧
      LongForm.offset "2024-02-29 23:59:59.5 -000001.500000 behind by 2" = -1500000 ∧
      (leapMoment (.reported (.ok (some (-1500000))) (.ok none) (.ok (some "behind by 2")))).instant =
        (leapMoment (.fixed (-1500000) (some "behind by 2"))).instant := by
  have hcivil := isCivil_leapMoment (z := .fixed (-1500000) (some "behind by 2")) rfl rfl
  have hcell : (Value.timestamp (leapMoment (.fixed (-1500000) (some "behind by 2")))).cell =
      .ok "2024-02-29 23:59:59.5 -000001.500000 behind by 2" := by decide +kernel
  have hsame :
      (Value.timestamp (leapMoment (.reported (.ok (some (-1500000))) (.ok none) (.ok (some "behind by 2"))))).cell =
        .ok "2024-02-29 23:59:59.5 -000001.500000 behind by 2" := by decide +kernel
  obtain ⟨text, htext, -, -, hoffset, -, hequal⟩ := cell_of_timestamp hcivil
  rw [hcell] at htext
  cases htext
  exact ⟨hcivil, hcell, hoffset, (hequal _ (isCivil_leapMoment rfl rfl) hsame).2.2⟩

end Value

end RecordPrint
