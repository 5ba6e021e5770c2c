import Mathlib.Algebra.Order.Group.Unbundled.Int
import RecordPrint.Proofs.Outcome
import RecordPrint.Time.Instant

/-!
# What zones answer

The long form of a timestamp asks its zone for the offset, and a zone that has one for its daylight saving time and its
name as well. The first answer that is a fault, or that is a day or more, is what the long form fails with.

* `Zone.admitted_eq_ok_iff`, `Zone.admitted_eq_error_iff` — the answers for an offset that are taken, and those that are
  refused;
* `Zone.Failing` — what keeps a zone from being shown, question by question;
* `Timestamp.long_eq_error_iff` — a timestamp has no long form exactly if its zone fails in this way;
* `Timestamp.exists_shownZone` — where the zone answers, the offset that is shown is the one that it reports;
* `Timestamp.exists_long` — there a timestamp that has one form has the other.
-/

namespace RecordPrint

namespace Zone

variable {z : Zone} {answer : Except Fault (Option Int)} {e : Fault}

/-! ### Offsets -/

/-- An answer for an offset that is refused: a fault, or a day or more. -/
inductive Refused : Except Fault (Option Int) → Fault → Prop where
  | fault (e : Fault) : Refused (.error e) e
  | range {offset : Int} : microsPerDay ≤ |offset| → Refused (.ok (some offset)) .offsetRange

theorem admitted_some (offset : Int) : admitted (.ok (some offset)) =
    if |offset| < microsPerDay then .ok (some offset) else .error .offsetRange := by
  simp only [abs_lt, admitted, bind, Except.bind, Bool.and_eq_true, decide_eq_true_eq]
  rfl

theorem admitted_of_abs_lt {offset : Int} (hoffset : answer = .ok (some offset)) (hrange : |offset| < microsPerDay) :
    admitted answer = .ok (some offset) := by
  rw [hoffset, admitted_some, if_pos hrange]

theorem admitted_eq_ok_iff {reported : Option Int} :
    admitted answer = .ok reported ↔ answer = .ok reported ∧ ∀ offset ∈ reported, |offset| < microsPerDay := by
  rcases answer with e | _ | offset
  · simp [admitted, bind, Except.bind]
  · have hnone : admitted (.ok none) = .ok none := rfl
    rw [hnone]
    constructor
    · rintro ⟨⟩
      exact ⟨rfl, fun offset h => by cases h⟩
    · exact And.left
  · rw [admitted_some]
    split
    · rename_i hrange
      constructor
      · rintro ⟨⟩
        refine ⟨rfl, fun offset' h => ?_⟩
        cases h
        exact hrange
      · exact And.left
    · rename_i hrange
      constructor
      · rintro ⟨⟩
      · rintro ⟨⟨⟩, h⟩
        exact absurd (h offset rfl) hrange

theorem admitted_eq_error_iff : admitted answer = .error e ↔ Refused answer e := by
  rcases answer with e' | _ | offset
  · have herror : admitted (.error e') = .error e' := rfl
    rw [herror]
    constructor
    · rintro ⟨⟩
      exact .fault e
    · rintro ⟨⟩
      rfl
  · constructor
    · rintro ⟨⟩
    · rintro ⟨⟩
  · rw [admitted_some]
    constructor
    · intro h
      split at h
      · cases h
      · rename_i hrange
        cases h
        exact .range (Int.not_lt.1 hrange)
    · rintro ⟨hrange⟩
      rw [if_neg (Int.not_lt.2 ‹_›)]

/-! ### Zones -/

/-- What keeps a zone from being shown. It is asked for its offset, and if it has one also for its daylight saving time
and its name; what it fails with is the first answer that is a fault or refused. -/
inductive Failing (z : Zone) : Fault → Prop where
  | offset {e : Fault} : Refused z.offset e → Failing z e
  | saving {offset : Int} {e : Fault} : z.offset = .ok (some offset) → |offset| < microsPerDay →
    Refused z.saving e → Failing z e
  | name {offset : Int} {saving : Option Int} {e : Fault} : z.offset = .ok (some offset) → |offset| < microsPerDay →
    z.saving = .ok saving → (∀ d ∈ saving, |d| < microsPerDay) → z.name = .error e → Failing z e

/-- Whether a zone answers all that it is asked, whatever it reports as its offset. -/
def answers (z : Zone) : Bool :=
  match z.offset with
  | .error _ => false
  | .ok none => true
  | .ok (some _) => (admitted z.saving).isOk && z.name.isOk

end Zone

namespace Timestamp

open Zone (admitted admitted_eq_error_iff admitted_eq_ok_iff admitted_of_abs_lt)

variable {t : Timestamp} {z : Zone} {e : Fault}

theorem shownZone_of_zone (hzone : t.zone = some z) : t.shownZone =
    (admitted z.offset).bind fun
      | none => .ok utc
      | some offset => (admitted z.saving).bind fun _ => z.name.map fun name => (offset, name) := by
  rw [shownZone, hzone]
  refine congrArg (admitted z.offset).bind (funext fun reported => ?_)
  cases reported with
  | none => rfl
  | some offset =>
    refine congrArg (admitted z.saving).bind (funext fun _ => ?_)
    cases z.name <;> rfl

/-- A timestamp has no long form exactly if its zone fails. -/
theorem long_eq_error_iff : t.long = .error e ↔ ∃ z, t.zone = some z ∧ z.Failing e := by
  rw [long, map_eq_error_iff]
  cases hzone : t.zone with
  | none =>
    have hutc : t.shownZone = .ok utc := by
      rw [shownZone, hzone]
      rfl
    simp [hutc]
  | some z =>
    rw [shownZone_of_zone hzone, bind_eq_error_iff, admitted_eq_error_iff]
    simp only [Option.some.injEq, exists_eq_left']
    constructor
    · rintro (hrefused | ⟨_ | offset, hoffset, hrest⟩)
      · exact .offset hrefused
      · cases hrest
      · obtain ⟨hoffset, hrange⟩ := admitted_eq_ok_iff.1 hoffset
        rcases bind_eq_error_iff.1 hrest with hsaving | ⟨saving, hsaving, hname⟩
        · exact .saving hoffset (hrange offset rfl) (admitted_eq_error_iff.1 hsaving)
        · obtain ⟨hsaving, hsaved⟩ := admitted_eq_ok_iff.1 hsaving
          exact .name hoffset (hrange offset rfl) hsaving hsaved (map_eq_error_iff.1 hname)
    · -- the answers in front of the one that fails are taken
      intro hfailing
      cases hfailing with
      | offset hrefused => exact .inl hrefused
      | saving hoffset hrange hrefused =>
        refine .inr ⟨_, admitted_of_abs_lt hoffset hrange, bind_eq_error_iff.2 (.inl ?_)⟩
        exact admitted_eq_error_iff.2 hrefused
      | name hoffset hrange hsaving hsaved hname =>
        have hsaving := admitted_eq_ok_iff.2 ⟨hsaving, hsaved⟩
        refine .inr ⟨_, admitted_of_abs_lt hoffset hrange, bind_eq_error_iff.2 (.inr ⟨_, hsaving, ?_⟩)⟩
        exact map_eq_error_iff.2 hname

/-- Where the zone answers, its name is shown beside the offset that it reports, or beside zero if it reports none. -/
theorem exists_shownZone (hanswers : ∀ z ∈ t.zone, z.answers = true)
    (hrange : ∀ o, reportedOffset t.zone = some o → |o| < microsPerDay) :
    ∃ name, t.shownZone = .ok ((reportedOffset t.zone).getD 0, name) := by
  cases hzone : t.zone with
  | none => exact ⟨utc.2, by rw [shownZone, hzone]; rfl⟩
  | some z =>
    have hanswers := hanswers z hzone
    rw [Zone.answers] at hanswers
    rw [hzone, reportedOffset, Option.bind_some] at hrange
    rw [shownZone_of_zone hzone, reportedOffset, Option.bind_some]
    rcases hoffset : z.offset with e | _ | offset
    · rw [hoffset] at hanswers
      cases hanswers
    · exact ⟨utc.2, rfl⟩
    · rw [hoffset] at hanswers hrange
      obtain ⟨hsaving, hname⟩ := Bool.and_eq_true_iff.1 hanswers
      rw [admitted_of_abs_lt rfl (hrange offset rfl)]
      cases hsaved : admitted z.saving with
      | error e =>
        rw [hsaved] at hsaving
        cases hsaving
      | ok saving =>
        cases hnamed : z.name with
        | error e =>
          rw [hnamed] at hname
          cases hname
        | ok name => exact ⟨name, rfl⟩

/-- A timestamp that has a text in ISO form has one in long form too, if its zone answers. -/
theorem exists_long {sep : CodePoint} {u : Text} (hanswers : ∀ z ∈ t.zone, z.answers = true)
    (h : t.iso sep = .ok u) : ∃ l, t.long = .ok l := by
  have hrange : ∀ o, reportedOffset t.zone = some o → |o| < microsPerDay := by
    intro o ho
    obtain ⟨z, hzone, hz⟩ := Option.bind_eq_some_iff.1 ho
    obtain ⟨offset, hoffset, -⟩ := map_eq_ok_iff.1 h
    rw [hzone, isoOffset] at hoffset
    obtain ⟨reported, hreported, -⟩ := map_eq_ok_iff.1 hoffset
    obtain ⟨hanswer, htaken⟩ := admitted_eq_ok_iff.1 hreported
    rw [hanswer] at hz
    exact htaken o hz
  obtain ⟨name, hshown⟩ := exists_shownZone hanswers hrange
  rw [long, hshown]
  exact ⟨_, rfl⟩

end Timestamp

end RecordPrint
