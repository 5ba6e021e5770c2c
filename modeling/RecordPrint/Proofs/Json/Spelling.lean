import RecordPrint.Json.Writer
import RecordPrint.Proofs.Json.Numbers
import RecordPrint.Proofs.Json.Strings
import RecordPrint.Proofs.Json.Trees

/-!
# Spellings of JSON

* `Json.spelled` — the text of a tree with given blanks between its tokens, indented or compact;
* `readValue_spelled` and `read_spelled` — whatever the blanks are, the reader gives back the tree.
-/

namespace RecordPrint

namespace Json

/-! ### Spellings -/

/-- The blanks of a JSON text: at either end of what stands between two brackets, behind a comma and behind a
colon. -/
structure Spacing where
  edge : Nat → Text
  comma : Nat → Text
  colon : Text

/-- A text of blanks. -/
def IsSpace (t : Text) : Prop := ∀ c ∈ t, isSpace c = true

/-- All blanks are blanks of JSON. -/
structure Spacing.Valid (sp : Spacing) : Prop where
  edge (level : Nat) : IsSpace (sp.edge level)
  comma (level : Nat) : IsSpace (sp.comma level)
  colon : IsSpace sp.colon

/-- No blanks at all. -/
def compact : Spacing := ⟨fun _ => [], fun _ => [], []⟩

/-- Each item and each entry on a line of its own. -/
def indented : Spacing := ⟨newline, newline, [.char ' ']⟩

theorem isSpace_newline (level : Nat) : IsSpace (newline level) := by
  intro c hc
  rcases List.mem_cons.1 hc with rfl | hc
  · rfl
  · rw [List.eq_of_mem_replicate hc]
    rfl

theorem valid_indented : indented.Valid where
  edge := isSpace_newline
  comma := isSpace_newline
  colon c hc := by
    rw [List.mem_singleton.1 hc]
    rfl

/-- The text of a scalar. -/
def scalarSpelled : Scalar → Text
  | .null => "null"
  | .bool true => "true"
  | .bool false => "false"
  | .int n => Numeral.ofInt n
  | .float x => x.numeral
  | .text t => quote t

mutual

/-- The text of a tree, inside `level` others. -/
def spelled (sp : Spacing) (level : Nat) : Json → Text
  | .leaf s => scalarSpelled s
  | .array [] => "[]"
  | .array (t :: ts) =>
    .char '[' :: sp.edge (level + 1) ++ spelledItems sp (level + 1) (t :: ts) ++ sp.edge level ++ [.char ']']
  | .object [] => "\x7b\x7d"
  | .object (e :: es) =>
    .char '{' :: sp.edge (level + 1) ++ spelledEntries sp (level + 1) (e :: es) ++ sp.edge level ++ [.char '}']

/-- The items of an array, with commas in between. -/
def spelledItems (sp : Spacing) (level : Nat) : List Json → Text
  | [] => []
  | t :: ts =>
    spelled sp level t ++ (if ts.isEmpty then [] else .char ',' :: sp.comma level) ++ spelledItems sp level ts

/-- The entries of an object, with commas in between. -/
def spelledEntries (sp : Spacing) (level : Nat) : List (Text × Json) → Text
  | [] => []
  | (name, t) :: es =>
    quote name ++ .char ':' :: sp.colon ++ spelled sp level t ++
      (if es.isEmpty then [] else .char ',' :: sp.comma level) ++ spelledEntries sp level es

end

/-! ### Blanks -/

/-- A text does not go on with a blank. -/
def NoSpace (t : Text) : Prop := ∀ c ∈ t.head?, isSpace c = false

theorem noSpace_cons {c : CodePoint} (h : isSpace c = false) (t : Text) : NoSpace (c :: t) := by
  intro c' hc'
  cases hc'
  exact h

theorem skipSpace_append {b u : Text} (hb : IsSpace b) (hu : NoSpace u) (i : Nat) :
    Cursor.skipSpace ⟨b ++ u, i⟩ = ⟨u, i + b.length⟩ := by
  have htake : u.takeWhile isSpace = [] := by
    cases u with
    | nil => rfl
    | cons c u => simp [hu c rfl]
  rw [Cursor.skipSpace, List.takeWhile_append_of_pos hb, htake, List.append_nil, advance_append]

theorem skipSpace_cons {c : CodePoint} (hc : isSpace c = false) (u : Text) (i : Nat) :
    Cursor.skipSpace ⟨c :: u, i⟩ = ⟨c :: u, i⟩ :=
  skipSpace_append (b := []) (fun _ h => absurd h List.not_mem_nil) (noSpace_cons hc u) i

/-- The cursor behind a token and the blanks that follow it. -/
theorem skipSpace_advance {b u : Text} (hb : IsSpace b) (hu : NoSpace u) (c : CodePoint) (i : Nat) :
    (Cursor.advance 1 ⟨c :: (b ++ u), i⟩).skipSpace = ⟨u, i + 1 + b.length⟩ :=
  skipSpace_append hb hu (i + 1)

theorem stops_of_isSpace {c : CodePoint} (h : isSpace c = true) (t : Text) : Stops (c :: t) := by
  refine stops_cons ?_
  simp only [isSpace, Bool.or_eq_true, decide_eq_true_eq] at h
  rcases h with ((rfl | rfl) | rfl) | rfl <;> decide

theorem stops_append {b t : Text} (hb : IsSpace b) (ht : Stops t) : Stops (b ++ t) := by
  cases b with
  | nil => exact ht
  | cons c b => exact stops_of_isSpace (hb c List.mem_cons_self) _

/-! ### Leaves -/

/-- The first characters of words and numbers. -/
def OpensPlain (c : CodePoint) : Prop :=
  isDigit c = true ∨ c = .char '-' ∨ c = .char 'n' ∨ c = .char 't' ∨ c = .char 'f'

theorem opensPlain_text (negative : Bool) {p : NumeralParts} (hp : p.Valid) :
    ∃ c u, minus negative ++ p.text = c :: u ∧ OpensPlain c := by
  obtain ⟨c, u, hc, h | h⟩ := startsNumeral_text negative hp []
  · exact ⟨c, u, by simpa using h, .inl hc⟩
  · exact ⟨_, c :: u, by simpa using h, .inr (.inl rfl)⟩

/-- A scalar other than a text. -/
theorem scalarSpelled_plain {s : Scalar} (hs : s.Writable) (ht : ∀ t, s ≠ .text t) :
    (∃ c u, scalarSpelled s = c :: u ∧ OpensPlain c) ∧ ∀ rest i, Stops rest →
      readPlain ⟨scalarSpelled s ++ rest, i⟩ = .ok (s, ⟨rest, i + (scalarSpelled s).length⟩) := by
  cases s with
  | null => exact ⟨⟨_, _, rfl, .inr (.inr (.inl rfl))⟩, fun rest i _ => rfl⟩
  | bool b =>
    cases b with
    | false => exact ⟨⟨_, _, rfl, .inr (.inr (.inr (.inr rfl)))⟩, fun rest i _ => rfl⟩
    | true => exact ⟨⟨_, _, rfl, .inr (.inr (.inr (.inl rfl)))⟩, fun rest i _ => rfl⟩
  | int n =>
    refine ⟨?_, fun rest i hrest => readPlain_ofInt hs hrest i⟩
    rw [scalarSpelled, ofInt_eq]
    exact opensPlain_text _ (valid_ofNat _)
  | float x =>
    obtain ⟨y, rfl⟩ := hs
    refine ⟨?_, fun rest i hrest => readPlain_numeral y hrest i⟩
    obtain ⟨p, htext, hp, -⟩ := exists_numeral y
    rw [scalarSpelled, Binary64.numeral, htext]
    exact opensPlain_text _ hp
  | text t => exact absurd rfl (ht t)

/-! ### Reading a spelling back -/

theorem OpensPlain.ne {c d : CodePoint} (h : OpensPlain c) (hd : ¬ OpensPlain d) : c ≠ d := by
  rintro rfl
  exact hd h

theorem readValue_plain {fuel i : Nat} {c : CodePoint} {u : Text} (h : OpensPlain c) :
    readValue (fuel + 1) ⟨c :: u, i⟩ = (readPlain ⟨c :: u, i⟩).map fun p => (.leaf p.1, p.2) := by
  have hquote : c ≠ .char '"' := h.ne (by simp [OpensPlain]; decide)
  have hbracket : c ≠ .char '[' := h.ne (by simp [OpensPlain]; decide)
  have hbrace : c ≠ .char '{' := h.ne (by simp [OpensPlain]; decide)
  rw [readValue]
  split
  · next heq => exact absurd (List.cons.inj heq).1 hquote
  · next heq => exact absurd (List.cons.inj heq).1 hbracket
  · next heq => exact absurd (List.cons.inj heq).1 hbrace
  · rfl

/-- The first characters of a value. -/
def Opens (c : CodePoint) : Prop := OpensPlain c ∨ c = .char '"' ∨ c = .char '[' ∨ c = .char '{'

theorem opens_spelled (sp : Spacing) (level : Nat) {j : Json} (hj : j.WellFormed) :
    ∃ c u, spelled sp level j = c :: u ∧ Opens c := by
  cases hj with
  | @leaf s hs =>
    by_cases ht : ∃ t, s = .text t
    · obtain ⟨t, rfl⟩ := ht
      exact ⟨_, _, rfl, .inr (.inl rfl)⟩
    · obtain ⟨⟨c, u, htext, hc⟩, -⟩ := scalarSpelled_plain hs fun t h => ht ⟨t, h⟩
      exact ⟨c, u, htext, .inl hc⟩
  | @array items _ =>
    cases items with
    | nil => exact ⟨_, _, rfl, .inr (.inr (.inl rfl))⟩
    | cons t ts => exact ⟨_, _, rfl, .inr (.inr (.inl rfl))⟩
  | @object entries _ _ =>
    cases entries with
    | nil => exact ⟨_, _, rfl, .inr (.inr (.inr rfl))⟩
    | cons e es => exact ⟨_, _, rfl, .inr (.inr (.inr rfl))⟩

theorem Opens.isSpace_eq {c : CodePoint} (h : Opens c) : isSpace c = false := by
  rw [Bool.eq_false_iff]
  intro hspace
  simp only [isSpace, Bool.or_eq_true, decide_eq_true_eq] at hspace
  rcases hspace with ((rfl | rfl) | rfl) | rfl <;> simp [Opens, OpensPlain, isDigit, CodePoint.toNat] at h

theorem Opens.ne_bracket {c : CodePoint} (h : Opens c) : c ≠ .char ']' := by
  rintro rfl
  simp [Opens, OpensPlain, isDigit, CodePoint.toNat] at h

/-- The reader gives a tree back from its spelling. -/
def Reads (sp : Spacing) (j : Json) : Prop :=
  ∀ level rest i fuel, Stops rest → 2 * (spelled sp level j).length ≤ fuel →
    readValue fuel ⟨spelled sp level j ++ rest, i⟩ = .ok (j, ⟨rest, i + (spelled sp level j).length⟩)

theorem reads_leaf (sp : Spacing) {s : Scalar} (hs : s.Writable) : Reads sp (.leaf s) := by
  intro level rest i fuel hrest hfuel
  rw [spelled] at hfuel ⊢
  by_cases ht : ∃ t, s = .text t
  · obtain ⟨t, rfl⟩ := ht
    obtain ⟨fuel, rfl⟩ : ∃ f, fuel = f + 1 := by
      refine ⟨fuel - 1, ?_⟩
      rw [scalarSpelled, length_quote] at hfuel
      omega
    rw [scalarSpelled, quote_append, readValue]
    simp only [readString_quote]
    rfl
  · obtain ⟨⟨c, u, htext, hc⟩, hread⟩ := scalarSpelled_plain hs fun t h => ht ⟨t, h⟩
    have := hread rest i hrest
    rw [htext] at this hfuel ⊢
    cases fuel with
    | zero => simp at hfuel
    | succ fuel =>
      rw [List.cons_append] at this ⊢
      rw [readValue_plain hc, this]
      rfl

theorem head_spelledItems (sp : Spacing) (level : Nat) {t : Json} (ht : t.WellFormed) (ts : List Json) (rest : Text) :
    ∃ c u, spelledItems sp level (t :: ts) ++ rest = c :: u ∧ Opens c := by
  obtain ⟨c, u, hhead, hc⟩ := opens_spelled sp level ht
  exact ⟨c, _, by rw [spelledItems, hhead]; rfl, hc⟩

/-- The items of an array are read up to the closing bracket. -/
theorem readItems_spelled {sp : Spacing} (hsp : sp.Valid) {t : Json} {ts : List Json}
    (hts : ∀ t' ∈ t :: ts, t'.WellFormed ∧ Reads sp t') {level i fuel : Nat} {edge : Text} (hedge : IsSpace edge)
    (rest : Text) (hfuel : 2 * (spelledItems sp level (t :: ts)).length + 1 ≤ fuel) :
    readItems fuel ⟨spelledItems sp level (t :: ts) ++ (edge ++ .char ']' :: rest), i⟩ =
      .ok (t :: ts, ⟨rest, i + (spelledItems sp level (t :: ts)).length + edge.length + 1⟩) := by
  induction ts generalizing t i fuel with
  | nil =>
    obtain ⟨fuel, rfl⟩ : ∃ f, fuel = f + 1 := ⟨fuel - 1, by omega⟩
    simp only [spelledItems, List.isEmpty_nil, if_true, List.append_nil] at hfuel ⊢
    rw [readItems, (hts t List.mem_cons_self).2 level _ i fuel (stops_append hedge (stops_cons (by decide))) (by omega)]
    simp only [bind, Except.bind, pure, Except.pure]
    rw [skipSpace_append hedge (noSpace_cons (by decide) _)]
    rfl
  | cons t' ts ih =>
    obtain ⟨fuel, rfl⟩ : ∃ f, fuel = f + 1 := ⟨fuel - 1, by omega⟩
    rw [spelledItems] at hfuel ⊢
    simp only [List.isEmpty_cons, Bool.false_eq_true, if_false, List.length_append, List.length_cons,
      List.append_assoc, List.cons_append] at hfuel ⊢
    obtain ⟨c, u, hhead, hc⟩ := head_spelledItems sp level (hts t' (by simp)).1 ts
      (edge ++ .char ']' :: rest)
    rw [readItems, (hts t List.mem_cons_self).2 level _ i fuel (stops_cons (by decide)) (by omega)]
    simp only [bind, Except.bind, pure, Except.pure]
    rw [skipSpace_cons (by decide), skipSpace_advance (hsp.comma level)
        (hhead ▸ noSpace_cons hc.isSpace_eq _),
      ih (fun x hx => hts x (List.mem_cons_of_mem _ hx)) (by omega)]
    simp only [Except.ok.injEq, Prod.mk.injEq, Cursor.mk.injEq, true_and]
    omega

/-- An entry is read; a closing brace behind it ends the object, and a comma goes on with the next entry. -/
theorem readEntries_step {sp : Spacing} (hsp : sp.Valid) {name : Text} {t : Json} (hwf : t.WellFormed)
    (hread : Reads sp t) (before : List (Text × Json)) {level i fuel k : Nat} {rest u : Text} {b : CodePoint}
    (hrest : Stops rest) (hfuel : 2 * (spelled sp level t).length ≤ fuel)
    (hbehind : Cursor.skipSpace ⟨rest, i + (quote name).length + 1 + sp.colon.length + (spelled sp level t).length⟩ =
      ⟨b :: u, k⟩) :
    (b = .char '}' →
      readEntries (fuel + 1) before ⟨quote name ++ .char ':' :: (sp.colon ++ (spelled sp level t ++ rest)), i⟩ =
        .ok (putEntry name t before, ⟨u, k + 1⟩)) ∧
    (b = .char ',' →
      readEntries (fuel + 1) before ⟨quote name ++ .char ':' :: (sp.colon ++ (spelled sp level t ++ rest)), i⟩ =
        readEntries fuel (putEntry name t before) (Cursor.skipSpace ⟨u, k + 1⟩)) := by
  obtain ⟨c, v, hhead, hc⟩ := opens_spelled sp level hwf
  have hvalue := hread level rest (i + (quote name).length + 1 + sp.colon.length) fuel hrest hfuel
  rw [readEntries, quote_append]
  simp only [readString_quote, bind, Except.bind, pure, Except.pure]
  rw [skipSpace_cons (by decide)]
  simp only
  rw [skipSpace_advance hsp.colon (hhead ▸ noSpace_cons hc.isSpace_eq _)]
  simp only [hvalue, hbehind]
  constructor
  · rintro rfl
    rfl
  · rintro rfl
    rfl

/-- The entries of an object are read up to the closing brace and put behind those already read. -/
theorem readEntries_spelled {sp : Spacing} (hsp : sp.Valid) {e : Text × Json} {es before : List (Text × Json)}
    (hes : ∀ e' ∈ e :: es, e'.2.WellFormed ∧ Reads sp e'.2) (hnames : ((before ++ e :: es).map Prod.fst).Nodup)
    {level i fuel : Nat} {edge : Text} (hedge : IsSpace edge) (rest : Text)
    (hfuel : 2 * (spelledEntries sp level (e :: es)).length + 1 ≤ fuel) :
    readEntries fuel before ⟨spelledEntries sp level (e :: es) ++ (edge ++ .char '}' :: rest), i⟩ =
      .ok (before ++ e :: es, ⟨rest, i + (spelledEntries sp level (e :: es)).length + edge.length + 1⟩) := by
  induction es generalizing e i fuel before with
  | nil =>
    obtain ⟨fuel, rfl⟩ : ∃ f, fuel = f + 1 := ⟨fuel - 1, by omega⟩
    obtain ⟨name, t⟩ := e
    obtain ⟨hwf, hread⟩ : t.WellFormed ∧ Reads sp t := hes _ List.mem_cons_self
    have hput : putEntry name t before = before ++ [(name, t)] := putEntry_of_nodup hnames
    simp only [spelledEntries, List.isEmpty_nil, if_true, List.append_nil, List.length_append, List.length_cons,
      List.append_assoc, List.cons_append] at hfuel ⊢
    rw [(readEntries_step hsp hwf hread before (stops_append hedge (stops_cons (by decide))) (by omega)
      (skipSpace_append hedge (noSpace_cons (by decide) _) _)).1 rfl, hput]
    simp only [Except.ok.injEq, Prod.mk.injEq, Cursor.mk.injEq, true_and]
    omega
  | cons e' es ih =>
    obtain ⟨fuel, rfl⟩ : ∃ f, fuel = f + 1 := ⟨fuel - 1, by omega⟩
    obtain ⟨name, t⟩ := e
    obtain ⟨hwf, hread⟩ : t.WellFormed ∧ Reads sp t := hes _ List.mem_cons_self
    have hput : putEntry name t before = before ++ [(name, t)] := putEntry_of_nodup hnames
    have hhead : NoSpace (spelledEntries sp level (e' :: es) ++ (edge ++ .char '}' :: rest)) := noSpace_cons rfl _
    rw [spelledEntries] at hfuel ⊢
    simp only [List.isEmpty_cons, Bool.false_eq_true, if_false, List.length_append, List.length_cons,
      List.append_assoc, List.cons_append] at hfuel ⊢
    rw [(readEntries_step hsp hwf hread before (stops_cons (by decide)) (by omega)
      (skipSpace_cons (by decide) _ _)).2 rfl, skipSpace_append (hsp.comma level) hhead, hput,
      ih (fun x hx => hes x (List.mem_cons_of_mem _ hx)) (by simpa using hnames) (by omega)]
    simp only [List.append_assoc, List.cons_append, List.nil_append, Except.ok.injEq, Prod.mk.injEq, Cursor.mk.injEq,
      true_and]
    omega

theorem reads_array {sp : Spacing} (hsp : sp.Valid) {items : List Json}
    (hitems : ∀ t ∈ items, t.WellFormed ∧ Reads sp t) : Reads sp (.array items) := by
  intro level rest i fuel hrest hfuel
  cases items with
  | nil =>
    have hfour : 4 ≤ fuel := hfuel
    obtain ⟨fuel, rfl⟩ : ∃ f, fuel = f + 1 := ⟨fuel - 1, by omega⟩
    rfl
  | cons t ts =>
    obtain ⟨c, u, hhead, hc⟩ := head_spelledItems sp (level + 1) (hitems t List.mem_cons_self).1 ts
      (sp.edge level ++ .char ']' :: rest)
    obtain ⟨fuel, rfl⟩ : ∃ f, fuel = f + 1 := ⟨fuel - 1, by rw [spelled] at hfuel; simp at hfuel; omega⟩
    rw [spelled] at hfuel ⊢
    simp only [List.length_append, List.length_cons, List.length_nil, List.append_assoc, List.cons_append,
      List.nil_append] at hfuel ⊢
    rw [readValue]
    simp only
    rw [skipSpace_advance (hsp.edge (level + 1)) (hhead ▸ noSpace_cons hc.isSpace_eq _),
      if_neg (by rw [hhead]; intro h; cases h; exact hc.ne_bracket rfl),
      readItems_spelled hsp hitems (hsp.edge level) rest (by omega)]
    simp only [Except.map, Except.ok.injEq, Prod.mk.injEq, Cursor.mk.injEq, true_and]
    omega

theorem reads_object {sp : Spacing} (hsp : sp.Valid) {entries : List (Text × Json)}
    (hnames : (entries.map Prod.fst).Nodup) (hentries : ∀ e ∈ entries, e.2.WellFormed ∧ Reads sp e.2) :
    Reads sp (.object entries) := by
  intro level rest i fuel hrest hfuel
  cases entries with
  | nil =>
    have hfour : 4 ≤ fuel := hfuel
    obtain ⟨fuel, rfl⟩ : ∃ f, fuel = f + 1 := ⟨fuel - 1, by omega⟩
    rfl
  | cons e es =>
    obtain ⟨u, hhead⟩ : ∃ u, spelledEntries sp (level + 1) (e :: es) ++ (sp.edge level ++ .char '}' :: rest) =
        .char '"' :: u := ⟨_, rfl⟩
    obtain ⟨fuel, rfl⟩ : ∃ f, fuel = f + 1 := ⟨fuel - 1, by rw [spelled] at hfuel; simp at hfuel; omega⟩
    rw [spelled] at hfuel ⊢
    simp only [List.length_append, List.length_cons, List.length_nil, List.append_assoc, List.cons_append,
      List.nil_append] at hfuel ⊢
    rw [readValue]
    simp only
    rw [skipSpace_advance (hsp.edge (level + 1)) (hhead ▸ noSpace_cons rfl _),
      if_neg (by rw [hhead]; intro h; cases h),
      readEntries_spelled hsp hentries hnames (hsp.edge level) rest (by omega)]
    simp only [Except.map, List.nil_append, Except.ok.injEq, Prod.mk.injEq, Cursor.mk.injEq, true_and]
    omega

/-- The reader gives a well-formed tree back from each of its spellings. -/
theorem readValue_spelled {sp : Spacing} (hsp : sp.Valid) {j : Json} (hj : j.WellFormed) : Reads sp j := by
  induction hj with
  | leaf hs => exact reads_leaf sp hs
  | array hitems ih => exact reads_array hsp fun t ht => ⟨hitems t ht, ih t ht⟩
  | object hnames hentries ih => exact reads_object hsp hnames fun e he => ⟨hentries e he, ih e he⟩

/-- A text that is a spelling of a well-formed tree is read as the tree. -/
theorem read_spelled {sp : Spacing} (hsp : sp.Valid) {j : Json} (hj : j.WellFormed) :
    read (spelled sp 0 j) = .ok j := by
  obtain ⟨c, u, hhead, hc⟩ := opens_spelled sp 0 hj
  have hread := readValue_spelled hsp hj 0 [] 0 (2 * (spelled sp 0 j).length + 2) stops_nil (by omega)
  rw [List.append_nil] at hread
  have hmark : (spelled sp 0 j).head? ≠ some (.char '\uFEFF') := by
    rw [hhead]
    rintro h
    cases h
    simp [Opens, OpensPlain, isDigit, CodePoint.toNat] at hc
  have hstart : Cursor.skipSpace ⟨spelled sp 0 j, 0⟩ = ⟨spelled sp 0 j, 0⟩ := by
    rw [hhead]
    exact skipSpace_cons hc.isSpace_eq u 0
  rw [read, if_neg hmark, hstart, hread]
  rfl

end Json

end RecordPrint
