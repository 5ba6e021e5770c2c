import Mathlib.Data.List.Nodup
import RecordPrint.Proofs.Log.Routing
import RecordPrint.Proofs.Number.Digits

/-!
# Settings of the environment

What a setting asks for, by the text that stands in it with blanks around.

* `Level.AsksFor` — a text names a level, by a numeral or by name;
* `parse_eq_some_iff`, `parse_eq_none_iff` — these texts are the ones that give a level; all others but the misread ones
  give none;
* `isMisread_iff` — the misread ones are made of digits, and are no numeral, or one that is too long;
* `asksFor_zero_iff` — the texts that name the level zero;
* `threshold_eq_critical_iff` — the settings that leave the threshold critical where a log is set up without one.
-/

namespace RecordPrint

namespace Numeral

theorem value_eq_zero_iff {t : Text} (h : ∀ c ∈ t, c.decimal? ≠ none) : value t = 0 ↔ ∀ c ∈ t, c.decimal? = some 0 := by
  induction t with
  | nil => simp [value, valueBehind]
  | cons c t ih =>
    obtain ⟨hc, ht⟩ := List.forall_mem_cons.1 h
    obtain ⟨d, hd⟩ := Option.ne_none_iff_exists'.1 hc
    rw [value_cons, hd, Option.getD_some, List.forall_mem_cons, Nat.add_eq_zero_iff, Nat.mul_eq_zero, ih ht, hd,
      Option.some.injEq]
    have hpow : 10 ^ t.length ≠ 0 := Nat.ne_of_gt (Nat.pow_pos (by decide))
    simp only [hpow, or_false]

end Numeral

namespace Level

variable {t : Text} {level : Level}

/-- A text asks for a level: by a numeral of decimal digits, or by a name in small or capital letters, with blanks around
it. -/
inductive AsksFor (t : Text) : Level → Prop where
  | numeral {ds : Text} : t.Surrounds ds → Numeral.IsReadable ds → AsksFor t (Numeral.value ds)
  | name {word : Text} {n : String × Level} : t.Surrounds word → n ∈ names → word.capitals = n.1 → AsksFor t n.2

/-! ### Numerals -/

theorem parse_of_isDigits (h : t.trim.isDigits = true) :
    parse t = (Numeral.read t.trim).map fun n : Nat => some (n : Int) := by
  have hcapitals := Text.capitals_of_isDigits h
  simp only [parse, hcapitals, h, if_true]
  cases Numeral.read t.trim <;> rfl

/-- A text is misread exactly if digits stand in it that are no numeral, or one that is too long. -/
theorem isMisread_iff : IsMisread t ↔ ∃ ds, t.Surrounds ds ∧ ds.isDigits = true ∧
    ((∃ c ∈ ds, c.decimal? = none) ∨ Numeral.digitLimit < ds.length) := by
  unfold IsMisread
  constructor
  · rintro ⟨hdigits, hrefused⟩
    rw [Text.isDigits_capitals] at hdigits
    rw [Text.capitals_of_isDigits hdigits] at hrefused
    exact ⟨t.trim, t.surrounds_trim, hdigits, hrefused⟩
  · rintro ⟨ds, hin, hdigits, hrefused⟩
    rw [(Text.trim_eq_iff (Text.isTrimmed_of_isDigits hdigits)).2 hin, Text.capitals_of_isDigits hdigits]
    exact ⟨hdigits, hrefused⟩

/-! ### Names -/

theorem parse_of_not_isDigits (h : t.trim.isDigits = false) :
    parse t = .ok ((names.find? fun n => Text.ofString n.1 = t.trim.capitals).map Prod.snd) := by
  rw [← Text.isDigits_capitals] at h
  simp only [parse, h, Bool.false_eq_true, if_false]

theorem nodup_names : (names.map fun n => Text.ofString n.1).Nodup := by decide

/-- A name is not made of digits, and neither begins nor ends with a blank. -/
theorem isOther_of_mem_names : ∀ n ∈ names, Text.ofString n.1 ≠ [] ∧ ∀ c ∈ Text.ofString n.1, c.IsOther := by
  have hletters : ∀ n ∈ names, Text.ofString n.1 ≠ [] ∧ ∀ c ∈ Text.ofString n.1, 0x41 ≤ c.toNat ∧ c.toNat ≤ 0x7A := by
    decide
  intro n hn
  exact ⟨(hletters n hn).1, fun c hc =>
    CodePoint.isOther_of_letter ((hletters n hn).2 c hc).1 ((hletters n hn).2 c hc).2⟩

section Names

variable {word : Text} {n : String × Level}

theorem isTrimmed_of_name (hn : n ∈ names) (h : word.capitals = n.1) : word.IsTrimmed := by
  obtain ⟨hne, hother⟩ := isOther_of_mem_names n hn
  rw [← h] at hne hother
  refine Text.isTrimmed_of_forall (fun hnil => hne (by rw [hnil]; rfl)) fun c hc => ?_
  rw [← CodePoint.isBlank_capital]
  exact (hother _ (List.mem_map_of_mem hc)).2

theorem isDigits_of_name (hn : n ∈ names) (h : word.capitals = n.1) : word.isDigits = false := by
  obtain ⟨hne, hother⟩ := isOther_of_mem_names n hn
  rw [← Text.isDigits_capitals, h, Bool.eq_false_iff]
  intro hdigits
  have hhead := (Text.isDigits_iff.1 hdigits).2 _ (List.head_mem hne)
  rw [(hother _ (List.head_mem hne)).1] at hhead
  cases hhead

theorem find?_names (hn : n ∈ names) (h : word.capitals = n.1) :
    (names.find? fun m => Text.ofString m.1 = word.capitals) = some n := by
  cases hfind : names.find? fun m => Text.ofString m.1 = word.capitals with
  | none =>
    have := List.find?_eq_none.1 hfind n hn
    simp only [h, decide_true, not_true_eq_false] at this
  | some m =>
    have hm : Text.ofString m.1 = word.capitals := by simpa using List.find?_some hfind
    exact congrArg some (List.inj_on_of_nodup_map nodup_names (List.mem_of_find?_eq_some hfind) hn (hm.trans h))

end Names

/-! ### Levels -/

/-- The texts that give a level. -/
theorem parse_eq_some_iff : parse t = .ok (some level) ↔ AsksFor t level := by
  constructor
  · intro h
    cases hdigits : t.trim.isDigits with
    | true =>
      rw [parse_of_isDigits hdigits, map_eq_ok_iff] at h
      obtain ⟨n, hread, hlevel⟩ := h
      cases hlevel
      obtain ⟨hreadable, rfl⟩ := Numeral.read_eq_ok_iff.1 hread
      exact .numeral t.surrounds_trim hreadable
    | false =>
      rw [parse_of_not_isDigits hdigits, Except.ok.injEq, Option.map_eq_some_iff] at h
      obtain ⟨n, hfind, rfl⟩ := h
      have hname : Text.ofString n.1 = t.trim.capitals := by simpa using List.find?_some hfind
      exact .name t.surrounds_trim (List.mem_of_find?_eq_some hfind) hname.symm
  · rintro (⟨hin, hreadable⟩ | ⟨hin, hn, hname⟩)
    · have htrim := (Text.trim_eq_iff (Text.isTrimmed_of_isDigits hreadable.isDigits)).2 hin
      rw [parse_of_isDigits (htrim ▸ hreadable.isDigits), htrim, Numeral.read_eq_ok_iff.2 ⟨hreadable, rfl⟩]
      rfl
    · have htrim := (Text.trim_eq_iff (isTrimmed_of_name hn hname)).2 hin
      rw [parse_of_not_isDigits (htrim ▸ isDigits_of_name hn hname), htrim, find?_names hn hname]
      rfl

/-- All texts that neither ask for a level nor are misread give none. -/
theorem parse_eq_none_iff : parse t = .ok none ↔ ¬ IsMisread t ∧ ∀ level, ¬ AsksFor t level := by
  rw [← exists_parse_eq_error_iff]
  simp only [← parse_eq_some_iff]
  rcases parse t with f | (_ | level) <;> simp

/-- A text names the level zero by zeros, or by the one name that this level has. -/
theorem asksFor_zero_iff : AsksFor t 0 ↔
    (∃ ds, t.Surrounds ds ∧ ds ≠ [] ∧ (∀ c ∈ ds, c.decimal? = some 0) ∧ ds.length ≤ Numeral.digitLimit) ∨
      ∃ word, t.Surrounds word ∧ word.capitals = "NOTSET" := by
  constructor
  · intro h
    generalize hlevel : (0 : Level) = level at h
    cases h with
    | @numeral ds hin hreadable =>
      have hzero : Numeral.value ds = 0 := Int.ofNat_eq_zero.1 hlevel.symm
      exact .inl ⟨ds, hin, hreadable.nonempty, (Numeral.value_eq_zero_iff hreadable.decimal).1 hzero, hreadable.short⟩
    | @name word n hin hn hname =>
      have honly : ∀ n ∈ names, 0 = n.2 → n.1 = "NOTSET" := by decide
      rw [honly n hn hlevel] at hname
      exact .inr ⟨word, hin, hname⟩
  · rintro (⟨ds, hin, hne, hzeros, hshort⟩ | ⟨word, hin, hname⟩)
    · have hdecimal : ∀ c ∈ ds, c.decimal? ≠ none := fun c hc => by simp [hzeros c hc]
      have hasks := AsksFor.numeral hin ⟨hne, hdecimal, hshort⟩
      rwa [(Numeral.value_eq_zero_iff hdecimal).2 hzeros] at hasks
    · have hmem : ("NOTSET", 0) ∈ names := by decide
      exact .name hin hmem hname

/-! ### Settings -/

variable {setting : Option Text}

theorem ofEnvironment_some (t : Text) : ofEnvironment (some t) = parse t := by
  cases t <;> rfl

theorem ofEnvironment_eq_some_iff : ofEnvironment setting = .ok (some level) ↔ ∃ t, setting = some t ∧ AsksFor t level := by
  cases setting with
  | none => simp [ofEnvironment]
  | some t => simp [ofEnvironment_some, parse_eq_some_iff]

/-- What a log takes as its threshold where none is given: the level that is asked for, unless this is zero, and else
the critical one. -/
def orCritical : Option Level → Level
  | none => critical
  | some level => if level = 0 then critical else level

theorem threshold_eq (setting : Option Text) : threshold setting = (ofEnvironment setting).map orCritical := by
  refine congrArg (fun f => (ofEnvironment setting).map f) (funext fun asked => ?_)
  split
  · rfl
  · rfl
  · rename_i hzero
    exact (if_neg hzero).symm

theorem orCritical_some_eq_iff : orCritical (some level) = level ↔ level ≠ 0 := by
  by_cases hzero : level = 0
  · rw [hzero]
    decide
  · simp [orCritical, hzero]

theorem orCritical_eq_critical_iff {asked : Option Level} :
    orCritical asked = critical ↔ ∀ level, asked = some level → level = 0 ∨ level = critical := by
  rcases asked with _ | level
  · simp [orCritical]
  · by_cases hzero : level = 0 <;> simp [orCritical, hzero]

/-- The settings that leave the threshold critical: each one that can be read, and asks for no level other than zero and
the critical one. -/
theorem threshold_eq_critical_iff : threshold setting = .ok critical ↔
    ∀ t, setting = some t → ¬ IsMisread t ∧ ∀ level, AsksFor t level → level = 0 ∨ level = critical := by
  rw [threshold_eq, map_eq_ok_iff]
  simp only [orCritical_eq_critical_iff]
  cases setting with
  | none => simp [ofEnvironment]
  | some t =>
    simp only [ofEnvironment_some, Option.some.injEq, forall_eq', ← exists_parse_eq_error_iff, ← parse_eq_some_iff]
    rcases parse t with f | asked <;> simp

end Level

namespace Journal

variable {j : Journal} {setting : Option Text} {stream : Nat} {level : Level} {f : Numeral.ReadError}

theorem setUp_eq_error_iff {threshold : Option Level} :
    j.setUp threshold stream = .error f ↔ j.chosen threshold = .error f := by
  refine ⟨fun h => ?_, fun h => (step_setUp_of_error h).1⟩
  cases hchosen : j.chosen threshold with
  | ok level => cases (setUp_eq_ok_iff.2 ⟨level, hchosen, rfl⟩).symm.trans h
  | error g =>
    rw [(step_setUp_of_error hchosen).1] at h
    cases h
    rfl

/-- A setting keeps a log from being set up without a threshold exactly if no level can be found in it. -/
theorem setUp_setting_eq_error_iff :
    (j.setEnvironment setting).setUp none stream = .error f ↔ Level.ofEnvironment setting = .error f := by
  rw [setUp_eq_error_iff, chosen, Level.threshold_eq]
  exact map_eq_error_iff

/-- The threshold of a log that is set up without one. -/
theorem exists_setUp_iff : (∃ after, (j.setEnvironment setting).setUp none stream = .ok after ∧ after.threshold = level) ↔
    Level.threshold setting = .ok level := by
  simp only [setUp_eq_ok_iff, chosen]
  constructor
  · rintro ⟨_, ⟨chosen, hchosen, rfl⟩, rfl⟩
    exact hchosen
  · intro h
    exact ⟨_, ⟨level, h, rfl⟩, rfl⟩

end Journal

end RecordPrint
