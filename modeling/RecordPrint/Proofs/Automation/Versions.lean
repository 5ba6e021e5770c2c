import Mathlib.Data.List.Sort
import RecordPrint.Automation.Checks
import RecordPrint.Proofs.Number.Digits
import RecordPrint.Proofs.Outcome
import RecordPrint.Proofs.Text.Digits

/-!
# Supported versions

The versions that a project supports are those that its classifiers name, in numeric order.

* `Ascending.eq_of_mem_iff` — an ascending list of versions is known by its members;
* `ascending_insert` and `mem_ordered` — versions that are put in order one by one, and what each step keeps;
* `eq_map_text_iff` — the texts of an ascending list are what sorting them by the versions read off them again gives;
* `exists_ofClassifier?` — a classifier that can be read gives the version that it names;
* `ofConfiguration_of_lists` — the supported versions of a project, by the classifiers that it lists;
* `Check.projectVersions_eq` — those of this project do not depend on the version that is running.
-/

namespace RecordPrint

namespace LanguageVersion

variable {running v w x : LanguageVersion} {vs ws : List LanguageVersion}

/-! ### Order -/

theorem before_iff : v.before w = true ↔ v.major < w.major ∨ v.major = w.major ∧ v.minor < w.minor := by
  simp [before]

theorem before_trans (h : v.before w = true) (h' : w.before x = true) : v.before x = true := by
  rw [before_iff] at h h' ⊢
  omega

theorem not_before_of_before (h : v.before w = true) : ¬ w.before v = true := by
  rw [before_iff] at h ⊢
  omega

theorem before_trichotomy (v w : LanguageVersion) : v.before w = true ∨ v = w ∨ w.before v = true := by
  obtain ⟨m, n⟩ := v
  obtain ⟨m', n'⟩ := w
  rw [before_iff, before_iff, mk.injEq]
  simp only
  omega

instance : Std.Irrefl fun v w : LanguageVersion => v.before w = true where
  irrefl _ h := not_before_of_before h h

instance : Std.Antisymm fun v w : LanguageVersion => v.before w = true where
  antisymm _ _ h h' := absurd h' (not_before_of_before h)

/-- Each version of a list comes before all that stand behind it. -/
def Ascending (vs : List LanguageVersion) : Prop := vs.Pairwise fun v w => v.before w = true

theorem Ascending.nodup (h : Ascending vs) : vs.Nodup := List.Pairwise.nodup h

/-- An ascending list is known by its members. -/
theorem Ascending.eq_of_mem_iff (hvs : Ascending vs) (hws : Ascending ws) (h : ∀ v, v ∈ vs ↔ v ∈ ws) : vs = ws :=
  List.Pairwise.eq_of_mem_iff hvs hws h

/-! ### Versions put in order -/

theorem mem_insert : x ∈ insert v vs ↔ x = v ∨ x ∈ vs := by
  induction vs with
  | nil => simp [insert]
  | cons w vs ih =>
    rw [insert]
    split
    · exact List.mem_cons
    · split
      · rename_i hsame
        rw [hsame, List.mem_cons, or_self_left]
      · rw [List.mem_cons, ih, List.mem_cons, or_left_comm]

/-- One more version finds a place where the list stays ascending. -/
theorem ascending_insert (h : Ascending vs) (v : LanguageVersion) : Ascending (insert v vs) := by
  induction vs with
  | nil => exact List.pairwise_singleton _ v
  | cons w vs ih =>
    obtain ⟨hw, hvs⟩ := List.pairwise_cons.1 h
    rw [insert]
    split
    · rename_i hbefore
      refine List.pairwise_cons.2 ⟨fun x hx => ?_, h⟩
      rcases List.mem_cons.1 hx with rfl | hx
      · exact hbefore
      · exact before_trans hbefore (hw x hx)
    · rename_i hbefore
      split
      · exact h
      · rename_i hother
        -- the place is behind the head, and the rest is ascending by itself
        have hbehind : w.before v = true := ((before_trichotomy v w).resolve_left hbefore).resolve_left hother
        refine List.pairwise_cons.2 ⟨fun x hx => ?_, ih hvs⟩
        rcases mem_insert.1 hx with rfl | hx
        · exact hbehind
        · exact hw x hx

theorem mem_ordered : v ∈ ordered vs ↔ v ∈ vs := by
  induction vs with
  | nil => rfl
  | cons w vs ih => rw [ordered, List.foldr_cons, ← ordered, mem_insert, ih, List.mem_cons]

theorem ascending_ordered (vs : List LanguageVersion) : Ascending (ordered vs) := by
  induction vs with
  | nil => exact List.Pairwise.nil
  | cons w vs ih => exact ascending_insert ih w

/-- Versions that are named, in order; the running one where there are none. -/
theorem mem_supported : v ∈ supported running vs ↔ v ∈ vs ∨ vs = [] ∧ v = running := by
  rw [supported]
  split
  · rename_i hnone
    have hvs : vs = [] := List.eq_nil_iff_forall_not_mem.2 fun w hw => by
      have hordered := mem_ordered.2 hw
      rw [hnone] at hordered
      cases hordered
    simp [hvs]
  · rename_i hsome
    have hvs : vs ≠ [] := by
      rintro rfl
      exact hsome rfl
    simp [mem_ordered, hvs]

theorem ascending_supported (running : LanguageVersion) (vs : List LanguageVersion) :
    Ascending (supported running vs) := by
  rw [supported]
  split
  · exact List.pairwise_singleton _ running
  · exact ascending_ordered vs

theorem supported_ne_nil (running : LanguageVersion) (vs : List LanguageVersion) : supported running vs ≠ [] := by
  rw [supported]
  split
  · exact List.cons_ne_nil running []
  · rename_i hsome
    exact hsome

/-! ### Texts of versions -/

theorem not_mem_ofNat (n : Nat) : CodePoint.char '.' ∉ Numeral.ofNat n := by
  intro h
  exact absurd (Numeral.isDigits_ofNat n _ h) (by decide)

theorem splitOnPoint_text (v : LanguageVersion) :
    v.text.splitOnPoint (.char '.') = [Numeral.ofNat v.major, Numeral.ofNat v.minor] :=
  Text.splitOnPoint_eq_pair_iff.2 ⟨rfl, not_mem_ofNat v.major, not_mem_ofNat v.minor⟩

theorem text_injective : Function.Injective text := by
  intro v w h
  have hpieces := splitOnPoint_text v
  rw [h, splitOnPoint_text, List.cons.injEq, List.cons.injEq] at hpieces
  have hmajor := congrArg Numeral.value hpieces.1
  have hminor := congrArg Numeral.value hpieces.2.1
  rw [Numeral.value_ofNat, Numeral.value_ofNat] at hmajor hminor
  obtain ⟨m, n⟩ := v
  obtain ⟨m', n'⟩ := w
  rw [mk.injEq]
  exact ⟨hmajor.symm, hminor.symm⟩

/-- The version that is read off a text of two numerals with a dot in between. -/
def ofText? (t : Text) : Option LanguageVersion :=
  match t.splitOnPoint (.char '.') with
  | [major, minor] =>
    match Numeral.read major, Numeral.read minor with
    | .ok m, .ok n => some ⟨m, n⟩
    | _, _ => none
  | _ => none

/-- The numerals of a version are no longer than those that are read. -/
def IsShort (v : LanguageVersion) : Prop :=
  (Numeral.ofNat v.major).length ≤ Numeral.digitLimit ∧ (Numeral.ofNat v.minor).length ≤ Numeral.digitLimit

theorem read_ofNat {n : Nat} (h : (Numeral.ofNat n).length ≤ Numeral.digitLimit) :
    Numeral.read (Numeral.ofNat n) = .ok n := by
  refine Numeral.read_eq_ok_iff.2 ⟨⟨Numeral.ofNat_ne_nil n, fun c hc => ?_, h⟩, (Numeral.value_ofNat n).symm⟩
  rw [Numeral.decimal?_of_isDigit (Numeral.isDigits_ofNat n c hc)]
  exact Option.some_ne_none _

/-- A version that is short enough is read off its text again. -/
theorem ofText?_text (h : v.IsShort) : ofText? v.text = some v := by
  simp only [ofText?, splitOnPoint_text, read_ofNat h.1, read_ofNat h.2]

/-- The version that is read off the first text does not come behind the one read off the second text. -/
def NotBehind (t u : Text) : Prop := ∃ v w, ofText? t = some v ∧ ofText? u = some w ∧ ¬ w.before v = true

theorem notBehind_text_iff (hv : v.IsShort) (hw : w.IsShort) : NotBehind v.text w.text ↔ ¬ w.before v = true := by
  rw [NotBehind, ofText?_text hv, ofText?_text hw]
  simp

/-- The texts of an ascending list: there is no other way to give each of them once, sorted by the versions that are
read off them again. Of a single text nothing is read. -/
theorem eq_map_text_iff (hvs : Ascending vs) (hshort : ∀ v ∈ vs, ∀ w ∈ vs, v ≠ w → v.IsShort) {us : List Text} :
    us = vs.map text ↔ us.Nodup ∧ (∀ u, u ∈ us ↔ u ∈ vs.map text) ∧ us.Pairwise NotBehind := by
  have hnodup : (vs.map text).Nodup := hvs.nodup.map text_injective
  have hsorted : (vs.map text).Pairwise NotBehind := by
    refine List.pairwise_map.2 (hvs.imp_of_mem fun {v w} hv hw hbefore => ?_)
    have hne : v ≠ w := by
      rintro rfl
      exact not_before_of_before hbefore hbefore
    exact (notBehind_text_iff (hshort v hv w hw hne) (hshort w hw v hv hne.symm)).2 (not_before_of_before hbefore)
  constructor
  · rintro rfl
    exact ⟨hnodup, fun _ => Iff.rfl, hsorted⟩
  · rintro ⟨hus, hmem, hpairs⟩
    have hperm : us.Perm (vs.map text) := (List.perm_ext_iff_of_nodup hus hnodup).2 hmem
    -- two texts that are not behind each other are those of one version
    refine hperm.eq_of_pairwise (fun t u ht hu htu hut => ?_) hpairs hsorted
    obtain ⟨v, hv, rfl⟩ := List.mem_map.1 ((hmem t).1 ht)
    obtain ⟨w, hw, rfl⟩ := List.mem_map.1 hu
    by_contra hother
    have hne : v ≠ w := fun hvw => hother (by rw [hvw])
    have hv' : v.IsShort := hshort v hv w hw hne
    have hw' : w.IsShort := hshort w hw v hv hne.symm
    rw [notBehind_text_iff hv' hw'] at htu
    rw [notBehind_text_iff hw' hv'] at hut
    exact hne (((before_trichotomy v w).resolve_left hut).resolve_right htu)

/-! ### Classifiers -/

/-- A classifier with two texts of digits as the parts of a version: a dot stands between them, and blanks around
them. -/
structure HasParts (t major minor : Text) : Prop where
  rest : ∃ u : Text, t = classifierStart ++ u ∧ u.Surrounds (major ++ .char '.' :: minor)
  major : major.isDigits = true
  minor : minor.isDigits = true

/-- A classifier that names a version: its parts have the values of the version. -/
def Names (t : Text) (v : LanguageVersion) : Prop :=
  ∃ major minor, HasParts t major minor ∧ Numeral.value major = v.major ∧ Numeral.value minor = v.minor

/-- Whatever parts of a version a classifier has, they are read as numbers. -/
def CanBeRead (t : Text) : Prop :=
  ∀ major minor, HasParts t major minor → (∃ m, Numeral.read major = .ok m) ∧ ∃ n, Numeral.read minor = .ok n

theorem not_mem_of_isDigits {t : Text} (h : t.isDigits = true) : CodePoint.char '.' ∉ t := by
  intro hdot
  exact absurd ((Text.isDigits_iff.1 h).2 _ hdot) (by decide)

theorem isTrimmed_parts {major minor : Text} (hmajor : major.isDigits = true) (hminor : minor.isDigits = true) :
    (major ++ .char '.' :: minor).IsTrimmed := by
  obtain ⟨c, hc, hfirst⟩ := (Text.isTrimmed_of_isDigits hmajor).first
  obtain ⟨d, hd, hlast⟩ := (Text.isTrimmed_of_isDigits hminor).last
  refine ⟨⟨c, ?_, hfirst⟩, d, ?_, hlast⟩
  · rw [List.head?_append, hc, Option.some_or]
  · rw [List.getLast?_append, List.getLast?_cons, hd]
    rfl

/-- The parts of a version are what a classifier is cut into. -/
theorem hasParts_iff {t major minor : Text} : HasParts t major minor ↔
    ∃ rest, Text.dropStart? classifierStart t = some rest ∧ rest.trim.splitOnPoint (.char '.') = [major, minor] ∧
      (major.isDigits && minor.isDigits) = true := by
  simp only [Text.dropStart?_eq_some_iff, Text.splitOnPoint_eq_pair_iff, Bool.and_eq_true]
  constructor
  · rintro ⟨⟨u, rfl, hu⟩, hmajor, hminor⟩
    have htrim := (Text.trim_eq_iff (isTrimmed_parts hmajor hminor)).2 hu
    exact ⟨u, rfl, ⟨htrim, not_mem_of_isDigits hmajor, not_mem_of_isDigits hminor⟩, hmajor, hminor⟩
  · rintro ⟨u, rfl, ⟨htrim, -, -⟩, hmajor, hminor⟩
    exact ⟨⟨u, rfl, (Text.trim_eq_iff (isTrimmed_parts hmajor hminor)).1 htrim⟩, hmajor, hminor⟩

theorem ofClassifier?_of_hasParts {t major minor : Text} (h : HasParts t major minor) :
    ofClassifier? t = (do return some ⟨← Numeral.read major, ← Numeral.read minor⟩) := by
  obtain ⟨rest, hrest, hpieces, hdigits⟩ := hasParts_iff.1 h
  simp only [ofClassifier?, hrest, hpieces, if_pos hdigits]

/-- A classifier without the parts of a version is passed over. -/
theorem ofClassifier?_of_not_hasParts {t : Text} (h : ∀ major minor, ¬ HasParts t major minor) :
    ofClassifier? t = .ok none := by
  rw [ofClassifier?]
  split
  · rfl
  · rename_i rest hrest
    split
    · rename_i major minor hpieces
      split
      · rename_i hdigits
        exact absurd (hasParts_iff.2 ⟨rest, hrest, hpieces, hdigits⟩) (h major minor)
      · rfl
    · rfl

/-- The parts of a version are known from the classifier. -/
theorem HasParts.eq {t major minor major' minor' : Text} (h : HasParts t major minor)
    (h' : HasParts t major' minor') : major = major' ∧ minor = minor' := by
  obtain ⟨rest, hrest, hpieces, -⟩ := hasParts_iff.1 h
  obtain ⟨rest', hrest', hpieces', -⟩ := hasParts_iff.1 h'
  cases hrest.symm.trans hrest'
  cases hpieces.symm.trans hpieces'
  exact ⟨rfl, rfl⟩

/-- A classifier that can be read gives the version that it names, if it names one. -/
theorem exists_ofClassifier? {t : Text} (h : CanBeRead t) :
    ∃ found, ofClassifier? t = .ok found ∧ ∀ v, found = some v ↔ Names t v := by
  by_cases hparts : ∃ major minor, HasParts t major minor
  · obtain ⟨major, minor, hparts⟩ := hparts
    obtain ⟨⟨m, hm⟩, n, hn⟩ := h major minor hparts
    refine ⟨some ⟨m, n⟩, by rw [ofClassifier?_of_hasParts hparts, hm, hn]; rfl, fun v => ?_⟩
    rw [Option.some.injEq, (Numeral.read_eq_ok_iff.1 hm).2, (Numeral.read_eq_ok_iff.1 hn).2]
    constructor
    · rintro rfl
      exact ⟨major, minor, hparts, rfl, rfl⟩
    · rintro ⟨major', minor', hparts', hmajor, hminor⟩
      obtain ⟨rfl, rfl⟩ := hparts.eq hparts'
      rw [hmajor, hminor]
  · simp only [not_exists] at hparts
    refine ⟨none, ofClassifier?_of_not_hasParts hparts, fun v => ⟨fun h => (by cases h), ?_⟩⟩
    rintro ⟨major, minor, hnamed, -⟩
    exact absurd hnamed (hparts major minor)

/-- A classifier can be read exactly if it does not fail. -/
theorem canBeRead_iff {t : Text} : CanBeRead t ↔ ∃ found, ofClassifier? t = .ok found := by
  constructor
  · intro h
    obtain ⟨found, hfound, -⟩ := exists_ofClassifier? h
    exact ⟨found, hfound⟩
  · rintro ⟨found, hfound⟩ major minor hparts
    rw [ofClassifier?_of_hasParts hparts] at hfound
    obtain ⟨m, hm, hrest⟩ := bind_eq_ok_iff.1 hfound
    obtain ⟨n, hn, -⟩ := bind_eq_ok_iff.1 hrest
    exact ⟨⟨m, hm⟩, n, hn⟩

/-- A version that is named by a classifier that can be read is read off its own text. -/
theorem Names.isShort {t : Text} (h : Names t v) (hread : CanBeRead t) : v.IsShort := by
  have hlength : ∀ {part : Text} {n : Nat}, (∃ m, Numeral.read part = .ok m) → Numeral.value part = n →
      (Numeral.ofNat n).length ≤ Numeral.digitLimit := by
    rintro part n ⟨m, hm⟩ rfl
    have hshort := (Numeral.read_eq_ok_iff.1 hm).1.short
    refine (Numeral.length_ofNat_le_iff (by decide)).2 (Nat.lt_of_lt_of_le (Numeral.value_lt part) ?_)
    exact Nat.pow_le_pow_right (by decide) hshort
  obtain ⟨major, minor, hparts, hmajor, hminor⟩ := h
  obtain ⟨hm, hn⟩ := hread major minor hparts
  exact ⟨hlength hm hmajor, hlength hn hminor⟩

end LanguageVersion

namespace VersionSupport

open LanguageVersion (Ascending CanBeRead Names NotBehind text)

variable {running : LanguageVersion}

/-- The versions named by classifiers that can be read, one classifier after the other. -/
theorem exists_namedVersions {ts : List Text} (h : ∀ t ∈ ts, CanBeRead t) :
    ∃ vs, namedVersions (ts.map fun t => .leaf (.text t)) = .ok vs ∧ ∀ v, v ∈ vs ↔ ∃ t ∈ ts, Names t v := by
  induction ts with
  | nil => exact ⟨[], rfl, by simp⟩
  | cons t ts ih =>
    obtain ⟨found, hfound, hnames⟩ := LanguageVersion.exists_ofClassifier? (h t List.mem_cons_self)
    obtain ⟨vs, hvs, hmem⟩ := ih fun t' ht' => h t' (List.mem_cons_of_mem t ht')
    refine ⟨found.toList ++ vs, ?_, fun v => ?_⟩
    · rw [List.map_cons, namedVersions, hfound, hvs]
      rfl
    · rw [List.mem_append, Option.mem_toList, hnames, hmem, List.exists_mem_cons_iff]

/-- A configuration with a project table that lists the given classifiers; a table without a list has none. -/
def Lists (configuration : List (Text × Json)) (ts : List Text) : Prop :=
  ∃ table, configuration.lookup ("project" : Text) = some (.object table) ∧
    classifierItems ((table.lookup ("classifiers" : Text)).getD (.leaf .null)) =
      .ok (ts.map fun t => .leaf (.text t))

/-- A version that one of some classifiers names; where none of them names any, the running one. -/
def SupportedBy (running : LanguageVersion) (ts : List Text) (v : LanguageVersion) : Prop :=
  (∃ t ∈ ts, Names t v) ∨ (∀ t ∈ ts, ∀ w, ¬ Names t w) ∧ v = running

/-- A version that is supported beside another one is named by a classifier. -/
theorem SupportedBy.isShort {ts : List Text} {v w : LanguageVersion} (hv : SupportedBy running ts v)
    (hw : SupportedBy running ts w) (hne : v ≠ w) (hread : ∀ t ∈ ts, CanBeRead t) : v.IsShort := by
  rcases hv with ⟨t, ht, hnames⟩ | ⟨hnone, rfl⟩
  · exact hnames.isShort (hread t ht)
  · rcases hw with ⟨t, ht, hnames⟩ | ⟨-, rfl⟩
    · exact absurd hnames (hnone t ht w)
    · exact absurd rfl hne

/-- Classifiers that can be read give exactly the versions that they support, in ascending order. -/
theorem exists_ofConfiguration (running : LanguageVersion) {configuration : List (Text × Json)} {ts : List Text}
    (hlists : Lists configuration ts) (hread : ∀ t ∈ ts, CanBeRead t) :
    ∃ vs, ofConfiguration running configuration = .ok ⟨vs, []⟩ ∧ vs ≠ [] ∧ Ascending vs ∧
      ∀ v, v ∈ vs ↔ SupportedBy running ts v := by
  obtain ⟨table, htable, hitems⟩ := hlists
  obtain ⟨named, hnamed, hmem⟩ := exists_namedVersions hread
  refine ⟨LanguageVersion.supported running named, ?_, LanguageVersion.supported_ne_nil running named,
    LanguageVersion.ascending_supported running named, fun v => ?_⟩
  · simp only [ofConfiguration, htable, hitems, hnamed, bind, Except.bind, pure, Except.pure]
  · have hnone : named = [] ↔ ∀ t ∈ ts, ∀ w, ¬ Names t w := by
      simp only [List.eq_nil_iff_forall_not_mem, hmem, not_exists, not_and]
      exact ⟨fun h t ht w => h w t ht, fun h w t ht => h t ht w⟩
    rw [LanguageVersion.mem_supported, hmem, hnone, SupportedBy]

theorem supportedBy_congr {ts ts' : List Text} (h : ∀ t, t ∈ ts' ↔ t ∈ ts) (v : LanguageVersion) :
    SupportedBy running ts' v ↔ SupportedBy running ts v := by
  simp only [SupportedBy, h]

/-- A project whose classifiers can be read supports at least one version. Its versions ascend, and their texts are those
of the versions that the classifiers name, however these spell them, or that of the running version alone if they name
none. Their order is the only one in which each of these texts is given once, sorted by the versions that are read off
them again, and it does not depend on the order of the classifiers, nor on their repeats. -/
theorem ofConfiguration_of_lists (running : LanguageVersion) {configuration : List (Text × Json)} {ts : List Text}
    (hlists : Lists configuration ts) (hread : ∀ t ∈ ts, CanBeRead t) :
    ∃ vs, ofConfiguration running configuration = .ok ⟨vs, []⟩ ∧ vs ≠ [] ∧ Ascending vs ∧ (vs.map text).Nodup ∧
      (∀ v, text v ∈ vs.map text ↔ SupportedBy running ts v) ∧
      (∀ us : List Text, us = vs.map text ↔
        us.Nodup ∧ (∀ u, u ∈ us ↔ ∃ v, SupportedBy running ts v ∧ text v = u) ∧ us.Pairwise NotBehind) ∧
      ∀ configuration' ts', Lists configuration' ts' → (∀ t, t ∈ ts' ↔ t ∈ ts) →
        ofConfiguration running configuration' = ofConfiguration running configuration := by
  obtain ⟨vs, hvs, hne, hascending, hmem⟩ := exists_ofConfiguration running hlists hread
  have hshort : ∀ v ∈ vs, ∀ w ∈ vs, v ≠ w → v.IsShort := fun v hv w hw hother =>
    ((hmem v).1 hv).isShort ((hmem w).1 hw) hother hread
  refine ⟨vs, hvs, hne, hascending, hascending.nodup.map LanguageVersion.text_injective, fun v => ?_, fun us => ?_, ?_⟩
  · rw [List.mem_map_of_injective LanguageVersion.text_injective, hmem]
  · rw [LanguageVersion.eq_map_text_iff hascending hshort]
    simp only [List.mem_map, hmem]
  · intro configuration' ts' hlists' hsame
    obtain ⟨vs', hvs', -, hascending', hmem'⟩ :=
      exists_ofConfiguration running hlists' fun t ht => hread t ((hsame t).1 ht)
    have heq : vs' = vs := hascending'.eq_of_mem_iff hascending fun v => by
      rw [hmem', hmem, supportedBy_congr hsame]
    rw [hvs', hvs, heq]

theorem lists_project (ts : List Text) : Lists (project ts) ts := ⟨_, rfl, rfl⟩

/-- Classifiers of two versions, the later of which is spelled in two ways. -/
def mixedClassifiers : List Text :=
  ["Programming Language :: Python :: 3.10", "Programming Language :: Python :: \t3.9 ",
    "Programming Language :: Python :: 03.010"]

theorem ofConfiguration_of_lists_mixed :
    (∀ t ∈ mixedClassifiers, CanBeRead t) ∧
      ofConfiguration ⟨3, 11⟩ (project mixedClassifiers) = .ok ⟨[⟨3, 9⟩, ⟨3, 10⟩], []⟩ ∧
      SupportedBy ⟨3, 11⟩ mixedClassifiers ⟨3, 9⟩ ∧
      ofConfiguration ⟨3, 11⟩ (project mixedClassifiers.reverse) =
        ofConfiguration ⟨3, 11⟩ (project mixedClassifiers) := by
  have hread : ∀ t ∈ mixedClassifiers, CanBeRead t := by
    simp only [mixedClassifiers, List.forall_mem_cons, LanguageVersion.canBeRead_iff]
    have hten : LanguageVersion.ofClassifier? "Programming Language :: Python :: 3.10" = .ok (some ⟨3, 10⟩) := by
      decide +kernel
    have hnine : LanguageVersion.ofClassifier? "Programming Language :: Python :: \t3.9 " = .ok (some ⟨3, 9⟩) := by
      decide +kernel
    have hagain : LanguageVersion.ofClassifier? "Programming Language :: Python :: 03.010" = .ok (some ⟨3, 10⟩) := by
      decide +kernel
    exact ⟨⟨_, hten⟩, ⟨_, hnine⟩, ⟨_, hagain⟩, fun _ h => by cases h⟩
  obtain ⟨vs, hvs, -, -, -, hmem, -, hsame⟩ := ofConfiguration_of_lists ⟨3, 11⟩ (lists_project mixedClassifiers) hread
  have hmixed : ofConfiguration ⟨3, 11⟩ (project mixedClassifiers) = .ok ⟨[⟨3, 9⟩, ⟨3, 10⟩], []⟩ := by
    decide +kernel
  cases hmixed.symm.trans hvs
  have hnine : SupportedBy ⟨3, 11⟩ mixedClassifiers ⟨3, 9⟩ := (hmem ⟨3, 9⟩).1 (List.mem_map_of_mem List.mem_cons_self)
  exact ⟨hread, hmixed, hnine, hsame _ _ (lists_project _) fun t => List.mem_reverse⟩

end VersionSupport

/-- What this project supports is named by its own classifiers, whatever version is running. -/
theorem Check.projectVersions_eq (running : LanguageVersion) :
    Check.projectVersions running = [⟨3, 11⟩, ⟨3, 12⟩, ⟨3, 13⟩] := by
  have hnamed : VersionSupport.namedVersions (projectClassifiers.map fun t => .leaf (.text t)) =
      .ok [⟨3, 11⟩, ⟨3, 12⟩, ⟨3, 13⟩] := by decide +kernel
  obtain ⟨table, htable, hitems⟩ := VersionSupport.lists_project projectClassifiers
  rw [projectVersions, VersionSupport.ofConfiguration, htable]
  simp only [hitems, hnamed, bind, Except.bind, pure, Except.pure]
  rfl

end RecordPrint
