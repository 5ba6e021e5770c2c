import RecordPrint.Command.Syntax
import RecordPrint.Proofs.Outcome
import RecordPrint.Proofs.Table.Timestamps
import RecordPrint.Proofs.Time.Calendar

/-!
# Timestamps in order

The long form of a timestamp goes from the years down to the microseconds, each with a fixed number of digits, but for
zeros left out at the end of the fraction. The blank that stands there instead is in front of the point and of every
digit, so that the order of the texts is that of the times.

* `Timestamp.compare_localTime` — local times are in the order of their dates, then of their times of day;
* `Clock.compare_longFraction_append` — fractions are in the order of their microseconds, wherever they end;
* `Value.compare_cells` — the cells of timestamps of one zone are in the order of their local times;
* `Value.sorted_cells` — so the cells of a column are sorted by sorting its timestamps.
-/

namespace RecordPrint

open Numeral (compare_padded_append)

/-! ### Times of day -/

namespace Clock

/-- Times of day are in the order of their hours, then of their minutes, seconds and microseconds. -/
instance : Ord Clock :=
  ⟨compareLex (compareOn hour) (compareLex (compareOn minute) (compareLex (compareOn second) (compareOn micro)))⟩

theorem compare_eq (c d : Clock) :
    compare c d = (compare c.hour d.hour).then
      ((compare c.minute d.minute).then ((compare c.second d.second).then (compare c.micro d.micro))) := rfl

theorem eq_of_compare {c d : Clock} (h : compare c d = .eq) : c = d := by
  obtain ⟨_, _, _, _⟩ := c
  obtain ⟨_, _, _, _⟩ := d
  simp only [compare_eq, Ordering.then_eq_eq, Nat.compare_eq_eq] at h
  obtain ⟨rfl, rfl, rfl, rfl⟩ := h
  rfl

/-- Fractions with blanks behind them are in the order of their microseconds. -/
theorem compare_longFraction_append {c d : Clock} (hc : c.micro < 1000000) (hd : d.micro < 1000000) (u v : Text) :
    compare (c.longFraction ++ .char ' ' :: u) (d.longFraction ++ .char ' ' :: v) =
      (compare c.micro d.micro).then (compare u v) := by
  have hpoint : (CodePoint.char ' ').toNat < (CodePoint.char '.').toNat := by decide
  by_cases hczero : c.micro = 0
  · have hcnone : c.longFraction = [] := if_pos hczero
    by_cases hdzero : d.micro = 0
    · have hdnone : d.longFraction = [] := if_pos hdzero
      rw [hcnone, hdnone, hczero, hdzero]
      exact Text.compare_cons _ u v
    · obtain ⟨ds, n, hdsome, -⟩ := exists_longFraction hdzero
      rw [hcnone, hdsome, hczero, Nat.compare_eq_lt.2 (Nat.pos_of_ne_zero hdzero)]
      exact Text.compare_cons_lt hpoint _ _
  · obtain ⟨cs, m, hcsome, hcs, hcslen, hcsdigits, hcslast⟩ := LongForm.exists_fractionDigits hczero hc
    by_cases hdzero : d.micro = 0
    · have hdnone : d.longFraction = [] := if_pos hdzero
      rw [hcsome, hdnone, hdzero, Nat.compare_eq_gt.2 (Nat.pos_of_ne_zero hczero)]
      exact Std.OrientedCmp.gt_of_lt (Text.compare_cons_lt hpoint _ _)
    · obtain ⟨ds, n, hdsome, hds, hdslen, hdsdigits, hdslast⟩ := LongForm.exists_fractionDigits hdzero hd
      rw [hcsome, hdsome, List.cons_append, List.cons_append, Text.compare_cons,
        Numeral.compare_trimmed hcsdigits hdsdigits hcslast hdslast (hcslen.trans hdslen.symm), ← hcs, ← hds,
        Numeral.compare_padded (by decide) hc hd]

end Clock

/-! ### Local times -/

namespace Timestamp

/-- What calendar and clock of a timestamp show, in microseconds. -/
def localTime (t : Timestamp) : Int := t.date.dayNumber * microsPerDay + t.clock.micros

/-- A timestamp whose date is one of the calendar. -/
structure InCalendar (t : Timestamp) : Prop extends t.IsCivil where
  date : t.date.InCalendar

/-- Two timestamps have a zone of fixed offset in common, or none: the offsets that are reported are the same, and where
the timestamps read the same, so are the names. -/
structure ShareZone (s t : Timestamp) : Prop where
  offset : reportedOffset s.zone = reportedOffset t.zone
  zone : s.date = t.date → s.clock = t.clock → s.zone = t.zone

variable {s t : Timestamp}

theorem ShareZone.of_zone (h : s.zone = t.zone) : s.ShareZone t := ⟨by rw [h], fun _ _ => h⟩

theorem localTime_eq (t : Timestamp) : t.localTime = (t.date.dayNumber * 86400000000 +
    (((t.clock.hour * 60 + t.clock.minute) * 60 + t.clock.second) * 1000000 + t.clock.micro) : Nat) := by
  rw [localTime, Clock.micros, microsPerDay]
  push_cast
  rfl

theorem IsCivil.micros_lt (ht : t.IsCivil) :
    ((t.clock.hour * 60 + t.clock.minute) * 60 + t.clock.second) * 1000000 + t.clock.micro < 86400000000 := by
  have hhour := ht.hour
  have hminute := ht.minute
  have hsecond := ht.second
  have hmicro := ht.micro
  omega

theorem compare_localTime (hs : s.InCalendar) (ht : t.InCalendar) :
    compare s.localTime t.localTime = (compare s.date t.date).then (compare s.clock t.clock) := by
  rw [localTime_eq, localTime_eq, compare_natCast, compare_mul_add hs.micros_lt ht.micros_lt,
    compare_mul_add hs.micro ht.micro, compare_mul_add hs.second ht.second, compare_mul_add hs.minute ht.minute,
    Date.compare_dayNumber hs.date ht.date, Clock.compare_eq, Ordering.then_assoc, Ordering.then_assoc]

theorem ShareZone.compare_instant (h : s.ShareZone t) :
    compare s.instant t.instant = compare s.localTime t.localTime := by
  have hoffset : s.utcOffset = t.utcOffset := congrArg (·.getD 0) h.offset
  rw [show s.instant = s.localTime - s.utcOffset from rfl, show t.instant = t.localTime - t.utcOffset from rfl, hoffset,
    compare_sub_right]

/-! ### Texts -/

theorem IsCivil.compare_iso_append (hs : s.IsCivil) (ht : t.IsCivil) (u v : Text) :
    compare (s.date.iso ++ u) (t.date.iso ++ v) = (compare s.date t.date).then (compare u v) := by
  have year {t : Timestamp} (ht : t.IsCivil) : t.date.year < 10 ^ 4 := Nat.lt_succ_of_le ht.year
  have month {t : Timestamp} (ht : t.IsCivil) : t.date.month < 10 ^ 2 := by
    have := ht.month
    omega
  have day {t : Timestamp} (ht : t.IsCivil) : t.date.day < 10 ^ 2 := by
    have := ht.day
    omega
  simp only [Date.iso, twoDigits, List.append_assoc, List.cons_append]
  rw [compare_padded_append (by decide) (year hs) (year ht), Text.compare_cons,
    compare_padded_append (by decide) (month hs) (month ht), Text.compare_cons,
    compare_padded_append (by decide) (day hs) (day ht), Date.compare_eq, Ordering.then_assoc, Ordering.then_assoc]

theorem IsCivil.compare_toSeconds_append (hs : s.IsCivil) (ht : t.IsCivil) (u v : Text) :
    compare (s.clock.toSeconds ++ u) (t.clock.toSeconds ++ v) =
      (compare s.clock.hour t.clock.hour).then ((compare s.clock.minute t.clock.minute).then
        ((compare s.clock.second t.clock.second).then (compare u v))) := by
  have hour {t : Timestamp} (ht : t.IsCivil) : t.clock.hour < 10 ^ 2 := by
    have := ht.hour
    omega
  have minute {t : Timestamp} (ht : t.IsCivil) : t.clock.minute < 10 ^ 2 := by
    have := ht.minute
    omega
  have second {t : Timestamp} (ht : t.IsCivil) : t.clock.second < 10 ^ 2 := by
    have := ht.second
    omega
  simp only [Clock.toSeconds, twoDigits, List.append_assoc, List.cons_append]
  rw [compare_padded_append (by decide) (hour hs) (hour ht), Text.compare_cons,
    compare_padded_append (by decide) (minute hs) (minute ht), Text.compare_cons,
    compare_padded_append (by decide) (second hs) (second ht)]

/-- What stands in front of the offsets is in the order of the dates, then of the times of day, and the offsets and what
stands behind them decide only where these are the same. -/
theorem IsCivil.compare_long_append (hs : s.IsCivil) (ht : t.IsCivil) (u v : Text) :
    compare (s.longSeconds ++ (s.clock.longFraction ++ .char ' ' :: u))
        (t.longSeconds ++ (t.clock.longFraction ++ .char ' ' :: v)) =
      ((compare s.date t.date).then (compare s.clock t.clock)).then (compare u v) := by
  simp only [longSeconds, List.append_assoc, List.cons_append]
  rw [hs.compare_iso_append ht, Text.compare_cons, hs.compare_toSeconds_append ht,
    Clock.compare_longFraction_append hs.micro ht.micro, Clock.compare_eq]
  simp only [Ordering.then_assoc]

/-- The long forms of timestamps of one zone are in the order of the local times. -/
theorem InCalendar.exists_compare_long (hs : s.InCalendar) (ht : t.InCalendar) (h : s.ShareZone t) : ∃ a b : Text,
    s.long = .ok a ∧ t.long = .ok b ∧ compare a b = compare s.localTime t.localTime := by
  obtain ⟨m, ha⟩ := hs.exists_long
  obtain ⟨n, hb⟩ := ht.exists_long
  refine ⟨_, _, ha, hb, ?_⟩
  rw [hs.compare_long_append ht.toIsCivil, compare_localTime hs ht]
  cases hlocal : (compare s.date t.date).then (compare s.clock t.clock) with
  | lt => rfl
  | gt => rfl
  | eq =>
    -- timestamps that read the same have the same zone, and so the same text
    obtain ⟨hdate, hclock⟩ := Ordering.then_eq_eq.1 hlocal
    have hdate := Date.eq_of_compare hdate
    have hclock := Clock.eq_of_compare hclock
    have hsame : s = t := by
      cases s
      cases t
      rw [Timestamp.mk.injEq]
      exact ⟨hdate, hclock, h.zone hdate hclock⟩
    subst hsame
    have hname : m = n := by simpa using ha.symm.trans hb
    rw [hname, Text.compare_self, Ordering.eq_then]

end Timestamp

/-- A text is not behind another one exactly if it is less or the same. -/
theorem Text.notBehind_eq (s t : Text) : s.notBehind t = (compare s t).isLE := by
  induction s generalizing t with
  | nil => rw [Text.notBehind, List.isLE_compare_nil_left]
  | cons c s ih =>
    cases t with
    | nil => rfl
    | cons d t =>
      rw [Text.notBehind, List.compare_cons_cons, CodePoint.compare_eq]
      rcases Nat.lt_trichotomy c.toNat d.toNat with h | h | h
      · rw [if_neg (Nat.ne_of_lt h), Nat.compare_eq_lt.2 h, decide_eq_true h]
        rfl
      · rw [if_pos h, Nat.compare_eq_eq.2 h, ih, Ordering.eq_then]
      · rw [if_neg (Nat.ne_of_gt h), Nat.compare_eq_gt.2 h, decide_eq_false (Nat.lt_asymm h)]
        rfl

/-! ### Cells -/

namespace Value

/-- The cells of two timestamps of one zone of fixed offset, or of none, are in the order of the local times down to the
microsecond, and so of the instants. -/
theorem compare_cells {s t : Timestamp} (hs : s.InCalendar) (ht : t.InCalendar) (h : s.ShareZone t) : ∃ a b : Text,
    (Value.timestamp s).cell = .ok a ∧ (Value.timestamp t).cell = .ok b ∧
      compare a b = compare s.localTime t.localTime ∧ compare a b = compare s.instant t.instant := by
  obtain ⟨a, b, ha, hb, hcompare⟩ := hs.exists_compare_long ht h
  exact ⟨a, b, ha, hb, hcompare, hcompare.trans h.compare_instant.symm⟩

/-- A zone that is one second and a half behind. -/
def behind : Zone := .fixed (-1500000) none

/-- A moment of the same second as `leapMoment` whose fraction goes on. -/
def laterMoment : Timestamp := ⟨⟨2024, 2, 29⟩, ⟨23, 59, 59, 525000⟩, some behind⟩

theorem inCalendar_leapMoment : (leapMoment behind).InCalendar where
  toIsCivil := isCivil_leapMoment rfl rfl
  date := ⟨by decide, by decide, by decide⟩

theorem inCalendar_laterMoment : laterMoment.InCalendar where
  year := by decide
  month := by decide
  day := by decide
  hour := by decide
  minute := by decide
  second := by decide
  micro := by decide
  offset := inCalendar_leapMoment.offset
  answers := inCalendar_leapMoment.answers
  date := inCalendar_leapMoment.date

theorem compare_cells_leapMoment :
    (leapMoment behind).InCalendar ∧ laterMoment.InCalendar ∧ (leapMoment behind).ShareZone laterMoment ∧
      (Value.timestamp (leapMoment behind)).cell = .ok "2024-02-29 23:59:59.5 -000001.500000 -000001.500000" ∧
      (Value.timestamp laterMoment).cell = .ok "2024-02-29 23:59:59.525 -000001.500000 -000001.500000" ∧
      compare ("2024-02-29 23:59:59.5 -000001.500000 -000001.500000" : Text)
        "2024-02-29 23:59:59.525 -000001.500000 -000001.500000" = .lt ∧
      compare (leapMoment behind).instant laterMoment.instant = .lt := by
  have hzone : (leapMoment behind).ShareZone laterMoment := .of_zone rfl
  have hcell : (Value.timestamp (leapMoment behind)).cell =
      .ok "2024-02-29 23:59:59.5 -000001.500000 -000001.500000" := by decide +kernel
  have hlater : (Value.timestamp laterMoment).cell =
      .ok "2024-02-29 23:59:59.525 -000001.500000 -000001.500000" := by decide +kernel
  have hlt : compare (leapMoment behind).localTime laterMoment.localTime = .lt := by decide +kernel
  obtain ⟨a, b, ha, hb, hlocal, hinstant⟩ := compare_cells inCalendar_leapMoment inCalendar_laterMoment hzone
  rw [hcell] at ha
  rw [hlater] at hb
  cases ha
  cases hb
  exact ⟨inCalendar_leapMoment, inCalendar_laterMoment, hzone, hcell, hlater, hlocal.trans hlt,
    hinstant.symm.trans (hlocal.trans hlt)⟩

/-! ### Columns -/

/-- Sorting the cells of timestamps of one zone as texts is sorting the timestamps by their local times. -/
theorem sorted_cells {ts : List Timestamp} (hts : ∀ t ∈ ts, t.InCalendar) (hzone : ∀ s ∈ ts, ∀ t ∈ ts, s.ShareZone t) :
    ∃ cells, ts.mapM (fun t => (Value.timestamp t).cell) = .ok cells ∧
      (ts.mergeSort fun s t => s.localTime ≤ t.localTime).mapM (fun t => (Value.timestamp t).cell) =
        .ok (Text.sorted cells) := by
  have hexists : ∀ t ∈ ts, ∃ text, (Value.timestamp t).cell = .ok text := by
    intro t ht
    obtain ⟨name, hlong⟩ := (hts t ht).exists_long
    exact ⟨_, hlong⟩
  choose! text htext using hexists
  have horder : ∀ s ∈ ts, ∀ t ∈ ts, decide (s.localTime ≤ t.localTime) = Text.notBehind (text s) (text t) := by
    intro s hs t ht
    obtain ⟨a, b, ha, hb, hcompare⟩ := (hts s hs).exists_compare_long (hts t ht) (hzone s hs t ht)
    cases (htext s hs).symm.trans ha
    cases (htext t ht).symm.trans hb
    rw [Text.notBehind_eq, hcompare, Bool.eq_iff_iff, decide_eq_true_iff, Int.isLE_compare]
  refine ⟨ts.map text, mapM_eq_ok_map htext, ?_⟩
  rw [mapM_eq_ok_map fun t ht => htext t (List.mem_mergeSort.1 ht), Text.sorted, List.map_mergeSort horder]

end Value

end RecordPrint
