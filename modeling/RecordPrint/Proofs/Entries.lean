import RecordPrint.Value
import Mathlib.Data.List.Dedup
import Mathlib.Data.List.Induction
import Mathlib.Data.List.Perm.Subperm

/-!
# Entries that are put into each other

* `eraseDups_append_congr` — lists without their repeats, put together;
* `putEntries_of_nodup` — entries with distinct names are kept in their order; `length_putEntries_iff` — and of others
  not all are kept;
* `map_fst_putEntries` — the names of entries that are put into others are all the names, each where it stood first;
  `mem_putEntries` — and an entry among them is one of the others or the last of its name;
* `map_fst_foldl_putEntries`, `mem_foldl_putEntries` — the same of the entries of several lists;
* `putEntries_map` — entries that are put into each other and changed by their names are changed entries put into each
  other;
* `lookup_eq_some_iff_mem` — an entry among entries of distinct names is the one that its name leads to.
-/

namespace RecordPrint

/-! ### Lists without repeats -/

section Repeats

variable {α β : Type} [BEq α] [LawfulBEq α] [BEq β] [LawfulBEq β]

theorem eraseDups_append_of_subset {l m : List α} (h : m ⊆ l) : (l ++ m).eraseDups = l.eraseDups := by
  have hremove : m.removeAll l = [] := by
    rw [List.removeAll, List.filter_eq_nil_iff]
    intro a ha
    simp [h ha]
  rw [List.eraseDups_append, hremove, List.eraseDups_nil, List.append_nil]

theorem eraseDups_concat {l : List α} {a : α} (h : a ∉ l) : (l ++ [a]).eraseDups = l.eraseDups ++ [a] := by
  have hremove : [a].removeAll l = [a] := by
    rw [List.removeAll, List.filter_eq_self]
    intro b hb
    rw [List.mem_singleton.1 hb]
    simp [h]
  rw [List.eraseDups_append, hremove]
  rfl

theorem eraseDups_of_nodup {l : List α} (h : l.Nodup) : l.eraseDups = l := by
  induction l using List.reverseRecOn with
  | nil => rfl
  | append_singleton l a ih =>
    obtain ⟨hl, -, hapart⟩ := List.nodup_append.1 h
    have hnew : a ∉ l := fun ha => hapart a ha a (List.mem_singleton_self a) rfl
    rw [eraseDups_concat hnew, ih hl]

theorem eraseDups_filter (p : α → Bool) (l : List α) : (l.filter p).eraseDups = l.eraseDups.filter p := by
  induction l using List.reverseRecOn with
  | nil => rfl
  | append_singleton l a ih =>
    rw [List.filter_append]
    by_cases ha : a ∈ l
    · have hsingle : [a] ⊆ l := List.cons_subset.2 ⟨ha, List.nil_subset l⟩
      rw [eraseDups_append_of_subset (List.filter_subset p hsingle), eraseDups_append_of_subset hsingle, ih]
    · rw [eraseDups_concat ha, List.filter_append, ← ih]
      by_cases hp : p a = true
      · have hnew : a ∉ l.filter p := fun hmem => ha (List.mem_of_mem_filter hmem)
        rw [List.filter_singleton, hp, cond_true, eraseDups_concat hnew]
      · have hnone : [a].filter p = [] := List.filter_cons_of_neg hp
        rw [hnone, List.append_nil, List.append_nil]

/-- Repeats do not matter where lists are put together. -/
theorem eraseDups_append_congr {l l' m m' : List α} (hl : l.eraseDups = l'.eraseDups)
    (hm : m.eraseDups = m'.eraseDups) : (l ++ m).eraseDups = (l' ++ m').eraseDups := by
  have hmem : ∀ a, l.elem a = l'.elem a := by
    intro a
    rw [Bool.eq_iff_iff, List.elem_iff, List.elem_iff, ← List.mem_eraseDups, hl, List.mem_eraseDups]
  rw [List.eraseDups_append, List.eraseDups_append, List.removeAll, List.removeAll, eraseDups_filter, eraseDups_filter,
    hl, hm]
  simp only [hmem]

theorem eraseDups_flatMap (f : α → List β) (l : List α) :
    (l.eraseDups.flatMap f).eraseDups = (l.flatMap f).eraseDups := by
  induction l using List.reverseRecOn with
  | nil => rfl
  | append_singleton l a ih =>
    rw [List.flatMap_append, List.flatMap_singleton]
    by_cases ha : a ∈ l
    · have hsingle : [a] ⊆ l := List.cons_subset.2 ⟨ha, List.nil_subset l⟩
      have hsubset : f a ⊆ l.flatMap f := fun b hb => List.mem_flatMap.2 ⟨a, ha, hb⟩
      rw [eraseDups_append_of_subset hsubset, eraseDups_append_of_subset hsingle, ih]
    · rw [eraseDups_concat ha, List.flatMap_append, List.flatMap_singleton]
      exact eraseDups_append_congr ih rfl

theorem eraseDups_eraseDups (l : List α) : l.eraseDups.eraseDups = l.eraseDups := by
  simpa using eraseDups_flatMap (fun a => [a]) l

/-- What comes again behind itself adds nothing. -/
theorem eraseDups_append_self (l m : List α) : (l ++ (l ++ m).eraseDups).eraseDups = (l ++ m).eraseDups := by
  have hrepeat : (l ++ l).eraseDups = l.eraseDups := eraseDups_append_of_subset (List.Subset.refl l)
  rw [eraseDups_append_congr rfl (eraseDups_eraseDups (l ++ m)), ← List.append_assoc]
  exact eraseDups_append_congr hrepeat rfl

end Repeats

/-! ### Entries with distinct names -/

theorem putEntry_eq_append {α : Type} {name : Text} {a : α} {es : List (Text × α)} (h : name ∉ es.map Prod.fst) :
    putEntry name a es = es ++ [(name, a)] := by
  induction es with
  | nil => rfl
  | cons e es ih =>
    rw [List.map_cons, List.mem_cons, not_or] at h
    rw [putEntry, if_neg fun heq => h.1 heq.symm, ih h.2]
    rfl

/-- An entry whose name is new among distinct ones is put at the end. -/
theorem putEntry_of_nodup {α : Type} {before es : List (Text × α)} {e : Text × α}
    (h : ((before ++ e :: es).map Prod.fst).Nodup) : putEntry e.1 e.2 before = before ++ [e] := by
  refine putEntry_eq_append fun hmem => ?_
  rw [List.map_append, List.nodup_append] at h
  exact h.2.2 _ hmem e.1 List.mem_cons_self rfl

theorem putEntries_eq_append {α : Type} {before more : List (Text × α)}
    (h : ((before ++ more).map Prod.fst).Nodup) : putEntries before more = before ++ more := by
  induction more generalizing before with
  | nil => simp [putEntries]
  | cons e more ih =>
    rw [putEntries, List.foldl_cons, putEntry_of_nodup h, ← putEntries, ih (by simpa using h)]
    simp

/-- Entries with distinct names are kept as they are. -/
theorem putEntries_of_nodup {α : Type} {es : List (Text × α)} (h : (es.map Prod.fst).Nodup) : putEntries [] es = es :=
  putEntries_eq_append h

/-! ### Entries put into entries -/

section Entries

variable {α : Type} {es more : List (Text × α)}

theorem map_fst_putEntry (name : Text) (a : α) (es : List (Text × α)) :
    (putEntry name a es).map Prod.fst =
      if name ∈ es.map Prod.fst then es.map Prod.fst else es.map Prod.fst ++ [name] := by
  induction es with
  | nil => rfl
  | cons e es ih =>
    obtain ⟨k, b⟩ := e
    by_cases h : k = name
    · simp [putEntry, h]
    · have hne : name ≠ k := fun heq => h heq.symm
      simp only [putEntry, if_neg h, List.map_cons, ih, List.mem_cons, hne, false_or]
      split <;> rfl

theorem nodup_putEntries (h : (es.map Prod.fst).Nodup) : ((putEntries es more).map Prod.fst).Nodup := by
  induction more generalizing es with
  | nil => exact h
  | cons e more ih =>
    refine ih ?_
    rw [map_fst_putEntry]
    split
    · exact h
    · rename_i hnew
      exact h.append (List.nodup_singleton _) (by simpa using hnew)

theorem forall_mem_putEntry {P : Text × α → Prop} {name : Text} {a : α} (h : ∀ e ∈ es, P e) (ha : P (name, a)) :
    ∀ e ∈ putEntry name a es, P e := by
  induction es with
  | nil => simpa [putEntry] using ha
  | cons e es ih =>
    have hrest := ih fun e' he' => h e' (List.mem_cons_of_mem _ he')
    intro e' he'
    rw [putEntry] at he'
    split at he'
    · rename_i hname
      rcases List.mem_cons.1 he' with rfl | he'
      · exact hname ▸ ha
      · exact h e' (List.mem_cons_of_mem _ he')
    · rcases List.mem_cons.1 he' with rfl | he'
      · exact h _ List.mem_cons_self
      · exact hrest e' he'

theorem forall_mem_putEntries {P : Text × α → Prop} (h : ∀ e ∈ es, P e) (hmore : ∀ e ∈ more, P e) :
    ∀ e ∈ putEntries es more, P e := by
  induction more generalizing es with
  | nil => exact h
  | cons e more ih =>
    exact ih (forall_mem_putEntry h (hmore e List.mem_cons_self)) fun e' he' => hmore e' (List.mem_cons_of_mem _ he')

theorem putEntries_concat (es more : List (Text × α)) (e : Text × α) :
    putEntries es (more ++ [e]) = putEntry e.1 e.2 (putEntries es more) := by
  rw [putEntries, List.foldl_append, ← putEntries]
  rfl

/-- The names of entries that are put into others: each stays where it stood first. -/
theorem map_fst_putEntries (h : (es.map Prod.fst).Nodup) (more : List (Text × α)) :
    (putEntries es more).map Prod.fst = (es.map Prod.fst ++ more.map Prod.fst).eraseDups := by
  induction more using List.reverseRecOn with
  | nil => rw [List.map_nil, List.append_nil, eraseDups_of_nodup h, putEntries, List.foldl_nil]
  | append_singleton more e ih =>
    have hnames : es.map Prod.fst ++ (more ++ [e]).map Prod.fst =
        es.map Prod.fst ++ more.map Prod.fst ++ [e.1] := by
      simp
    rw [putEntries_concat, map_fst_putEntry, ih, hnames]
    split
    · rename_i hold
      exact (eraseDups_append_of_subset (List.cons_subset.2 ⟨List.mem_eraseDups.1 hold, List.nil_subset _⟩)).symm
    · rename_i hnew
      exact (eraseDups_concat fun hmem => hnew (List.mem_eraseDups.2 hmem)).symm

/-- What is left of distinct entries where one has been put is this one and those of other names. -/
theorem mem_putEntry (h : (es.map Prod.fst).Nodup) {name : Text} {a : α} {e : Text × α} :
    e ∈ putEntry name a es ↔ e = (name, a) ∨ e ∈ es ∧ e.1 ≠ name := by
  induction es with
  | nil => simp [putEntry]
  | cons d es ih =>
    obtain ⟨hd, hes⟩ := List.nodup_cons.1 h
    rw [putEntry]
    split
    · rename_i hname
      have hothers : ∀ e ∈ es, e.1 ≠ name := by
        intro e he heq
        exact hd (List.mem_map.2 ⟨e, he, heq.trans hname.symm⟩)
      simp only [List.mem_cons, hname]
      constructor
      · rintro (rfl | he)
        · exact .inl rfl
        · exact .inr ⟨.inr he, hothers e he⟩
      · rintro (rfl | ⟨rfl | he, hne⟩)
        · exact .inl rfl
        · exact absurd hname hne
        · exact .inr he
    · rename_i hname
      simp only [List.mem_cons, ih hes]
      constructor
      · rintro (rfl | rfl | ⟨he, hne⟩)
        · exact .inr ⟨.inl rfl, hname⟩
        · exact .inl rfl
        · exact .inr ⟨.inr he, hne⟩
      · rintro (rfl | ⟨rfl | he, hne⟩)
        · exact .inr (.inl rfl)
        · exact .inl rfl
        · exact .inr (.inr ⟨he, hne⟩)

/-- An entry among those that were put into others is one of these, or the last of its name among what was put. -/
theorem mem_putEntries (h : (es.map Prod.fst).Nodup) {e : Text × α} (he : e ∈ putEntries es more) :
    e ∈ es ∨ e ∈ putEntries [] more := by
  induction more using List.reverseRecOn with
  | nil => exact .inl he
  | append_singleton more d ih =>
    have hput : ((putEntries [] more).map Prod.fst).Nodup := nodup_putEntries List.nodup_nil
    rw [putEntries_concat, mem_putEntry (nodup_putEntries h)] at he
    rw [putEntries_concat, mem_putEntry hput]
    rcases he with rfl | ⟨he, hne⟩
    · exact .inr (.inl rfl)
    · exact (ih he).imp_right fun hmore => .inr ⟨hmore, hne⟩

/-! Entries of several lists, put into each other one list after the other. -/

section Lists

variable {ι : Type} (entries : ι → List (Text × α)) (xs : List ι)

theorem nodup_foldl_putEntries :
    ((xs.foldl (fun acc x => putEntries acc (entries x)) []).map Prod.fst).Nodup :=
  List.foldlRecOn (motive := fun es : List (Text × α) => (es.map Prod.fst).Nodup) xs _ List.nodup_nil
    fun _ ih _ _ => nodup_putEntries ih

theorem map_fst_foldl_putEntries : (xs.foldl (fun acc x => putEntries acc (entries x)) []).map Prod.fst =
    (xs.flatMap fun x => (entries x).map Prod.fst).eraseDups := by
  induction xs using List.reverseRecOn with
  | nil => rfl
  | append_singleton xs x ih =>
    rw [List.foldl_append, List.foldl_cons, List.foldl_nil, map_fst_putEntries (nodup_foldl_putEntries entries xs), ih,
      List.flatMap_append, List.flatMap_singleton]
    exact eraseDups_append_congr (eraseDups_eraseDups _) rfl

/-- Each entry comes from one of the lists, in which it is the last of its name. -/
theorem mem_foldl_putEntries {e : Text × α} (he : e ∈ xs.foldl (fun acc x => putEntries acc (entries x)) []) :
    ∃ x ∈ xs, e ∈ putEntries [] (entries x) := by
  induction xs using List.reverseRecOn with
  | nil => cases he
  | append_singleton xs x ih =>
    rw [List.foldl_append] at he
    rcases mem_putEntries (nodup_foldl_putEntries entries xs) he with he | he
    · obtain ⟨x', hx', he⟩ := ih he
      exact ⟨x', List.mem_append_left _ hx', he⟩
    · exact ⟨x, by simp, he⟩

end Lists

end Entries

/-- Entries that are put one by one are all kept exactly if their names are distinct. -/
theorem length_putEntries_iff {α : Type} {more : List (Text × α)} :
    (putEntries [] more).length = more.length ↔ (more.map Prod.fst).Nodup := by
  constructor
  · intro hlen
    have hsubset : (putEntries [] more).map Prod.fst ⊆ more.map Prod.fst := by
      intro name hname
      obtain ⟨e, he, rfl⟩ := List.mem_map.1 hname
      have hmem : ∀ e ∈ more, e.1 ∈ more.map Prod.fst := fun e he => List.mem_map_of_mem he
      exact forall_mem_putEntries (P := fun e => e.1 ∈ more.map Prod.fst) (by simp) hmem e he
    have hnodup : ((putEntries [] more).map Prod.fst).Nodup := nodup_putEntries List.nodup_nil
    have hperm := (List.subperm_of_subset hnodup hsubset).perm_of_length_le (by simp [hlen])
    exact hperm.nodup_iff.1 hnodup
  · intro hnodup
    rw [putEntries_of_nodup hnodup]

/-! ### Entries and their names -/

section Lookups

variable {α : Type} {es : List (Text × α)} {name : Text}

theorem mem_of_lookup {a : α} (h : es.lookup name = some a) : (name, a) ∈ es := by
  obtain ⟨before, behind, rfl, -⟩ := List.lookup_eq_some_iff.1 h
  simp

theorem isSome_lookup {e : Text × α} (h : e ∈ es) : (es.lookup e.1).isSome := by
  cases hlookup : es.lookup e.1 with
  | some a => rfl
  | none =>
    have hne := List.lookup_eq_none_iff.1 hlookup e h
    simp at hne

theorem lookup_map_snd {β : Type} (g : α → β) (es : List (Text × α)) (name : Text) :
    (es.map fun e => (e.1, g e.2)).lookup name = (es.lookup name).map g := by
  induction es with
  | nil => rfl
  | cons e es ih =>
    rw [List.map_cons, List.lookup_cons, List.lookup_cons, ih]
    cases name == e.1 <;> rfl

/-- An entry among entries of distinct names is the one that its name leads to. -/
theorem lookup_eq_some_iff_mem (hes : (es.map Prod.fst).Nodup) {a : α} : es.lookup name = some a ↔ (name, a) ∈ es := by
  refine ⟨mem_of_lookup, fun hmem => ?_⟩
  obtain ⟨b, hb⟩ := Option.isSome_iff_exists.1 (isSome_lookup hmem)
  have hsame : (name, b) = (name, a) := List.inj_on_of_nodup_map hes (mem_of_lookup hb) hmem rfl
  rw [hb, (Prod.mk.inj hsame).2]

/-- Two choices among entries of distinct names that have the same names are the same. -/
theorem filter_names_eq_iff {p q : Text × α → Bool} (hes : (es.map Prod.fst).Nodup) :
    (es.filter p).map Prod.fst = (es.filter q).map Prod.fst ↔ ∀ e ∈ es, p e = q e := by
  constructor
  · intro h e he
    have hmem : ∀ {r : Text × α → Bool}, e.1 ∈ (es.filter r).map Prod.fst ↔ r e = true := by
      intro r
      constructor
      · intro hname
        obtain ⟨e', he', heq⟩ := List.mem_map.1 hname
        obtain ⟨hin, hr⟩ := List.mem_filter.1 he'
        rwa [List.inj_on_of_nodup_map hes hin he heq] at hr
      · exact fun hr => List.mem_map_of_mem (List.mem_filter.2 ⟨he, hr⟩)
    rw [Bool.eq_iff_iff, ← hmem, h, hmem]
  · intro h
    rw [List.filter_congr h]

end Lookups

/-! ### Changed entries -/

section Changed

variable {α β : Type} (f : Text → α → β)

theorem putEntry_map (name : Text) (a : α) (es : List (Text × α)) :
    putEntry name (f name a) (es.map fun e => (e.1, f e.1 e.2)) =
      (putEntry name a es).map fun e => (e.1, f e.1 e.2) := by
  induction es with
  | nil => rfl
  | cons e es ih =>
    rw [List.map_cons, putEntry, putEntry]
    by_cases h : e.1 = name
    · rw [if_pos h, if_pos h, List.map_cons, h]
    · rw [if_neg h, if_neg h, List.map_cons, ih]

theorem putEntries_map (es more : List (Text × α)) :
    putEntries (es.map fun e => (e.1, f e.1 e.2)) (more.map fun e => (e.1, f e.1 e.2)) =
      (putEntries es more).map fun e => (e.1, f e.1 e.2) := by
  induction more generalizing es with
  | nil => rfl
  | cons e more ih =>
    have hrest := ih (putEntry e.1 e.2 es)
    rw [← putEntry_map] at hrest
    exact hrest

/-- A collection that starts empty and commutes with `g` step by step commutes with it as a whole. -/
theorem foldl_map_entries {γ δ ε : Type} {g : γ → δ} {put : List γ → ε → List γ} {put' : List δ → ε → List δ}
    (h : ∀ acc x, put' (acc.map g) x = (put acc x).map g) (xs : List ε) :
    xs.foldl put' [] = (xs.foldl put []).map g :=
  @List.foldl_hom _ _ _ (List.map g) put put' xs [] h

end Changed

end RecordPrint
