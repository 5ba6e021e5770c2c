import RecordPrint.Proofs.Number.Digits
import RecordPrint.Proofs.Number.Nearest

/-!
# Shortest decimals

* `exists_shortest` — the shortest decimal of a number lies in its basin: on the grid of seventeen digits one of the
  two neighbours of the number does;
* `ofDecimal_of_inBasin` — a decimal in the basin of a number is read as the number.
-/

namespace RecordPrint

open Binary64 (unitsPerOne)

namespace Finite64

variable {x : Finite64}

/-- `d * 10 ^ e` lies in the basin of a number. -/
def InBasin (x : Finite64) (d : Nat) (e : Int) : Prop :=
  x.basin.contains (4 * (d * 10 ^ e.toNat * unitsPerOne)) (10 ^ (-e).toNat) = true

theorem units_pos (h : x.units ≠ 0) : 2 ^ x.scale ≤ x.units := by
  have hsig : 1 ≤ x.significand := by
    refine Nat.pos_of_ne_zero fun hzero => h ?_
    rw [units_eq, hzero, Nat.zero_mul]
  have := Nat.mul_le_mul_right (2 ^ x.scale) hsig
  rwa [Nat.one_mul] at this

theorem lowerGap_le_two_units (h : x.units ≠ 0) : x.lowerGap ≤ 2 * x.units :=
  x.lowerGap_le.trans (Nat.mul_le_mul_left 2 (units_pos h))

/-! ### Equal ratios -/

/-- Whether a ratio lies in a basin does not hang on how it is written. -/
theorem contains_congr (b : Basin) {n den n' den' : Nat} (hden : 0 < den) (hden' : 0 < den')
    (same : n * den' = n' * den) : b.contains n den = b.contains n' den' := by
  have hle : ∀ a, a * den ≤ n ↔ a * den' ≤ n' := fun a =>
    calc a * den ≤ n ↔ a * den * den' ≤ n * den' := (Nat.mul_le_mul_right_iff hden').symm
      _ ↔ a * den' * den ≤ n' * den := by rw [same, Nat.mul_right_comm]
      _ ↔ a * den' ≤ n' := Nat.mul_le_mul_right_iff hden
  have hge : ∀ a, n ≤ a * den ↔ n' ≤ a * den' := fun a =>
    calc n ≤ a * den ↔ n * den' ≤ a * den * den' := (Nat.mul_le_mul_right_iff hden').symm
      _ ↔ n' * den ≤ a * den' * den := by rw [same, Nat.mul_right_comm]
      _ ↔ n' ≤ a * den' := Nat.mul_le_mul_right_iff hden
  unfold Basin.contains
  have hlt : ∀ a, a * den < n ↔ a * den' < n' := fun a => by rw [← Nat.not_le, hge, Nat.not_le]
  have hgt : ∀ a, n < a * den ↔ n' < a * den' := fun a => by rw [← Nat.not_le, hle, Nat.not_le]
  simp only [hle, hge, hlt, hgt]

/-- Zeros at the end of a decimal may be moved into its exponent. -/
theorem inBasin_shift (d k : Nat) (e : Int) : x.InBasin (d * 10 ^ k) (e - k) ↔ x.InBasin d e := by
  unfold InBasin
  have hten : ∀ j, 0 < (10 : Nat) ^ j := fun j => Nat.pow_pos (by decide)
  have hexp : k + (e - k).toNat + (-e).toNat = e.toNat + (-(e - k)).toNat := by omega
  have hpow : (10 : Nat) ^ k * 10 ^ (e - k).toNat * 10 ^ (-e).toNat = 10 ^ e.toNat * 10 ^ (-(e - k)).toNat := by
    rw [← pow_add, ← pow_add, ← pow_add, hexp]
  rw [contains_congr x.basin (hten _) (hten _)]
  calc 4 * (d * 10 ^ k * 10 ^ (e - k).toNat * unitsPerOne) * 10 ^ (-e).toNat
      = 4 * d * unitsPerOne * (10 ^ k * 10 ^ (e - k).toNat * 10 ^ (-e).toNat) := by ring
    _ = 4 * d * unitsPerOne * (10 ^ e.toNat * 10 ^ (-(e - k)).toNat) := by rw [hpow]
    _ = 4 * (d * 10 ^ e.toNat * unitsPerOne) * 10 ^ (-(e - k)).toNat := by ring

/-! ### The exponent of the first digit -/

theorem unitsPerOne_eq : unitsPerOne = 2 ^ 1074 := by
  unfold unitsPerOne
  -- the power is not computed
  generalize 1074 = n
  exact Nat.pow_eq

theorem unitsPerOne_pos : 0 < unitsPerOne := by
  rw [unitsPerOne_eq]
  positivity

theorem unitsPerOne_le : unitsPerOne ≤ 10 ^ 330 := by
  have hbits : unitsPerOne ≤ (2 ^ 33) ^ 33 := by
    rw [← pow_mul, show 33 * 33 = 1074 + 15 from rfl, pow_add, ← unitsPerOne_eq]
    exact Nat.le_mul_of_pos_right _ (by decide)
  have hten : (2 : Nat) ^ 33 ≤ 10 ^ 10 := by norm_num
  calc unitsPerOne ≤ (2 ^ 33) ^ 33 := hbits
    _ ≤ (10 ^ 10) ^ 33 := Nat.pow_le_pow_left hten 33
    _ = 10 ^ 330 := by rw [← pow_mul]

/-- `10 ^ e` is at most the number. -/
def AtLeast (units : Nat) (e : Int) : Prop := 10 ^ e.toNat * unitsPerOne ≤ units * 10 ^ (-e).toNat

theorem atLeast_smallExponent {units : Nat} (h : units ≠ 0) (fuel start : Nat) (hfuel : start + fuel = 331) :
    AtLeast units (smallExponent units fuel start) := by
  induction fuel generalizing start with
  | zero =>
    have hstart : (-(-(start : Int))).toNat = 330 + 1 := by omega
    have hneg : (-(start : Int)).toNat = 0 := by omega
    rw [smallExponent, AtLeast, hstart, hneg, pow_zero, Nat.one_mul, pow_succ]
    calc unitsPerOne ≤ 10 ^ 330 := unitsPerOne_le
      _ ≤ 10 ^ 330 * 10 := Nat.le_mul_of_pos_right _ (by decide)
      _ ≤ units * (10 ^ 330 * 10) := Nat.le_mul_of_pos_left _ (Nat.pos_of_ne_zero h)
  | succ fuel ih =>
    rw [smallExponent]
    split_ifs with hstart
    · unfold AtLeast
      simpa using hstart
    · exact ih (start + 1) (by omega)

theorem atLeast_leadExponent {units : Nat} (h : units ≠ 0) : AtLeast units (leadExponent units) := by
  unfold leadExponent
  split_ifs with hone
  · have hpos := unitsPerOne_pos
    have hquot : units / unitsPerOne ≠ 0 := Nat.ne_of_gt (Nat.div_pos hone hpos)
    have hle := Numeral.pow_length_ofNat_le hquot
    have hlen := Numeral.length_ofNat_pos (units / unitsPerOne)
    have hexp : (((Numeral.ofNat (units / unitsPerOne)).length : Int) - 1).toNat =
        (Numeral.ofNat (units / unitsPerOne)).length - 1 := by omega
    have hneg : (-(((Numeral.ofNat (units / unitsPerOne)).length : Int) - 1)).toNat = 0 := by omega
    unfold AtLeast
    rw [hexp, hneg, pow_zero, Nat.mul_one, ← Nat.le_div_iff_mul_le hpos]
    exact hle
  · exact atLeast_smallExponent h 330 1 rfl

/-! ### The grid of seventeen digits -/

theorem inBasin_of_onGrid? {e : Int} {d : Nat} (h : x.onGrid? e = some d) : x.InBasin d e := by
  have hcell : ∀ d, 4 * d * (10 ^ e.toNat * unitsPerOne) = 4 * (d * 10 ^ e.toNat * unitsPerOne) := by
    intro d
    ring
  unfold InBasin
  rw [← hcell]
  simp only [onGrid?] at h
  split at h
  · cases h
  · next hbelow _ =>
    cases h
    exact hbelow
  · next _ habove =>
    cases h
    exact habove
  · next hbelow habove =>
    split_ifs at h with h1 h2 h3
    · cases h; exact hbelow
    · cases h; exact habove
    · cases h; exact hbelow
    · cases h; exact habove

/-- The spacing of the grid of seventeen digits. -/
theorem spacing_le {lead : Int} (h : AtLeast x.units lead) :
    10 ^ (lead - 16).toNat * unitsPerOne * 10 ^ 16 ≤ x.units * 10 ^ (-(lead - 16)).toNat := by
  unfold AtLeast at h
  have hexp : (lead - 16).toNat + 16 + (-lead).toNat = lead.toNat + (-(lead - 16)).toNat := by omega
  have hpos : 0 < (10 : Nat) ^ (-lead).toNat := Nat.pow_pos (by decide)
  refine (Nat.mul_le_mul_right_iff hpos).1 ?_
  calc 10 ^ (lead - 16).toNat * unitsPerOne * 10 ^ 16 * 10 ^ (-lead).toNat
      = 10 ^ ((lead - 16).toNat + 16 + (-lead).toNat) * unitsPerOne := by
        rw [pow_add, pow_add]
        ring
    _ = 10 ^ lead.toNat * unitsPerOne * 10 ^ (-(lead - 16)).toNat := by
        rw [hexp, pow_add]
        ring
    _ ≤ x.units * 10 ^ (-lead).toNat * 10 ^ (-(lead - 16)).toNat := Nat.mul_le_mul_right _ h
    _ = x.units * 10 ^ (-(lead - 16)).toNat * 10 ^ (-lead).toNat := by ring

/-- On a grid that is fine enough, one of the two neighbours of a number lies in its basin. -/
theorem contains_neighbour {cell down : Nat} (hx : x.units ≠ 0) (hdown : 0 < down) (hcell : 0 < cell)
    (h : cell * 10 ^ 16 ≤ x.units * down) :
    x.basin.contains (4 * (x.units * down / cell) * cell) down = true ∨
      x.basin.contains (4 * (x.units * down / cell + 1) * cell) down = true := by
  have hdiv : cell * (x.units * down / cell) + x.units * down % cell = x.units * down := Nat.div_add_mod _ _
  have hrem : x.units * down % cell < cell := Nat.mod_lt _ hcell
  generalize x.units * down / cell = b at *
  generalize x.units * down % cell = r at *
  have hbelow : 4 * b * cell = 4 * (x.units * down) - 4 * r := by rw [← hdiv, Nat.mul_assoc, Nat.mul_comm b]; omega
  have habove : 4 * (b + 1) * cell = 4 * (x.units * down) + 4 * (cell - r) := by
    rw [← hdiv, Nat.mul_assoc, Nat.add_mul, Nat.mul_comm b]
    omega
  have hunits : 4 * x.units * down = 4 * (x.units * down) := Nat.mul_assoc _ _ _
  -- the cell is narrower than the basin
  have hnarrow : 4 * cell < x.lowerGap * down + 2 * 2 ^ x.scale * down := by
    have hsig := x.significand_lt
    have hstep : 2 * 2 ^ x.scale * down = 2 * (2 ^ x.scale * down) := Nat.mul_assoc _ _ _
    have hsmall : x.units * down < 2 ^ 53 * (2 ^ x.scale * down) := by
      have hpos : 0 < 2 ^ x.scale * down := Nat.mul_pos (Nat.two_pow_pos _) hdown
      have := (Nat.mul_lt_mul_right hpos).2 hsig
      rw [units_eq]
      rwa [Nat.mul_assoc]
    rw [hstep]
    unfold lowerGap
    split_ifs with hpower
    · have hexact : x.units * down = 2 ^ 52 * (2 ^ x.scale * down) := by
        rw [units_eq]
        rw [hpower.1, Nat.mul_assoc]
      omega
    · rw [hstep]
      omega
  have hgap : x.lowerGap * down ≤ 2 * (x.units * down) := by
    rw [← Nat.mul_assoc]
    exact Nat.mul_le_mul_right _ (lowerGap_le_two_units hx)
  have hpos : 0 < x.units * down := Nat.mul_pos (Nat.pos_of_ne_zero hx) hdown
  rcases Nat.lt_or_ge (4 * r) (x.lowerGap * down) with hlow | hhigh
  · refine .inl (contains_of_bounds ?_ ?_ ?_)
    · rw [hbelow, hunits]
      omega
    · rw [hbelow]
      omega
    · rw [hbelow, hunits]
      have : 0 < 2 * 2 ^ x.scale * down := Nat.mul_pos (by positivity) hdown
      omega
  · refine .inr (contains_of_bounds ?_ ?_ ?_)
    · rw [habove, hunits]
      omega
    · rw [habove]
      omega
    · rw [habove, hunits]
      omega

theorem exists_onGrid? {lead : Int} (hx : x.units ≠ 0) (h : AtLeast x.units lead) :
    ∃ d, x.onGrid? (lead - 16) = some d := by
  have hdown : 0 < (10 : Nat) ^ (-(lead - 16)).toNat := Nat.pow_pos (by decide)
  have hcell : 0 < 10 ^ (lead - 16).toNat * unitsPerOne := Nat.mul_pos (Nat.pow_pos (by decide)) unitsPerOne_pos
  have hneighbour := contains_neighbour hx hdown hcell (spacing_le h)
  simp only [onGrid?, Nat.pow_eq]
  split
  · next hbelow habove =>
    rw [hbelow, habove] at hneighbour
    simp at hneighbour
  · exact ⟨_, rfl⟩
  · exact ⟨_, rfl⟩
  · split_ifs <;> exact ⟨_, rfl⟩

theorem firstGrid_spec {lead : Int} (fuel places : Nat) (hplaces : places ≤ 17) (hfuel : 17 < places + fuel)
    (h : ∃ d, x.onGrid? (lead - 16) = some d) :
    x.onGrid? (x.firstGrid lead fuel places).2 = some (x.firstGrid lead fuel places).1 := by
  -- each grid that is refused has fewer than seventeen digits
  induction fuel generalizing places with
  | zero => omega
  | succ fuel ih =>
    rw [firstGrid]
    cases hgrid : x.onGrid? (lead + 1 - places) with
    | some d => exact hgrid
    | none =>
      have hne : places ≠ 17 := by
        rintro rfl
        obtain ⟨d, hd⟩ := h
        rw [show lead + 1 - ((17 : Nat) : Int) = lead - 16 by omega, hd] at hgrid
        cases hgrid
      exact ih (places + 1) (by omega) (by omega)

/-- The shortest decimal of a number lies in its basin. -/
theorem inBasin_shortest (hx : x.units ≠ 0) : x.InBasin x.shortest.1 x.shortest.2 := by
  unfold shortest
  rw [if_neg hx]
  exact inBasin_of_onGrid? (firstGrid_spec 17 1 (by decide) (by decide) (exists_onGrid? hx (atLeast_leadExponent hx)))

/-! ### Decimals in a basin -/

theorem inBasin_pos {d : Nat} {e : Int} (hx : x.units ≠ 0) (h : x.InBasin d e) : d ≠ 0 := by
  rintro rfl
  have hlower := (bounds_of_contains h).1
  have hpos : 0 < x.units * 10 ^ (-e).toNat := Nat.mul_pos (Nat.pos_of_ne_zero hx) (Nat.pow_pos (by decide))
  have hgap := Nat.mul_le_mul_right (10 ^ (-e).toNat) (lowerGap_le_two_units hx)
  rw [Nat.mul_assoc] at hlower hgap
  simp only [Nat.zero_mul, Nat.mul_zero, Nat.zero_add] at hlower
  omega

/-- All numbers are below ten to the power of 311. -/
theorem exponent_le_of_inBasin {d : Nat} {e : Int} (hx : x.units ≠ 0) (h : x.InBasin d e) : e ≤ 310 := by
  by_contra hlarge
  have hupper := (bounds_of_contains h).2.1
  rw [(by omega : (-e).toNat = 0), pow_zero, Nat.mul_one, Nat.mul_one] at hupper
  have hten : (2 ^ 33) ^ 31 ≤ 10 ^ 310 := by
    have hone : (2 : Nat) ^ 33 ≤ 10 ^ 10 := by norm_num
    calc (2 ^ 33) ^ 31 ≤ (10 ^ 10) ^ 31 := Nat.pow_le_pow_left hone 31
      _ = 10 ^ 310 := by rw [← pow_mul]
  have hvalue : (2 ^ 33) ^ 31 * 10 * unitsPerOne ≤ d * 10 ^ e.toNat * unitsPerOne := by
    refine Nat.mul_le_mul_right _ ?_
    calc (2 ^ 33) ^ 31 * 10 ≤ 10 ^ 310 * 10 := Nat.mul_le_mul_right _ hten
      _ = 10 ^ (310 + 1) := (pow_succ 10 310).symm
      _ ≤ 10 ^ e.toNat := pow_le_pow_right₀ (by decide) (by omega)
      _ ≤ d * 10 ^ e.toNat := Nat.le_mul_of_pos_left _ (Nat.pos_of_ne_zero (inBasin_pos hx h))
  have hscale : 2 ^ 55 * 2 ^ x.scale ≤ 2 ^ 3 * (2 ^ 33) ^ 31 * unitsPerOne := by
    have hle := x.scale_le
    rw [← pow_mul, unitsPerOne_eq, ← pow_add, ← pow_add, ← pow_add]
    exact pow_le_pow_right₀ (by decide) (by omega)
  have hunits : x.units ≤ 2 ^ 53 * 2 ^ x.scale := Nat.mul_le_mul_right _ (Nat.le_of_lt x.significand_lt)
  have hpos : 0 < (2 ^ 33) ^ 31 * unitsPerOne := Nat.mul_pos (Nat.pow_pos (by decide)) unitsPerOne_pos
  rw [Nat.mul_assoc] at hscale
  rw [Nat.mul_right_comm] at hvalue
  generalize (2 ^ 33) ^ 31 * unitsPerOne = w at *
  omega

/-- No number other than zero is as small as ten to the power of -331. -/
theorem exponent_ge_of_inBasin {d places : Nat} {e : Int} (hx : x.units ≠ 0) (h : x.InBasin d e)
    (hd : d < 10 ^ places) : -330 ≤ e + places := by
  by_contra hsmall
  have hlower := (bounds_of_contains h).1
  have hgap := Nat.mul_le_mul_right (10 ^ (-e).toNat) (lowerGap_le_two_units hx)
  rw [(by omega : e.toNat = 0), pow_zero, Nat.mul_one, Nat.mul_assoc] at hlower
  rw [Nat.mul_assoc] at hgap
  have hten : 10 ^ places * (10 ^ 330 * 10) ≤ x.units * 10 ^ (-e).toNat := by
    rw [← pow_succ, ← pow_add]
    calc 10 ^ (places + (330 + 1)) ≤ 10 ^ (-e).toNat := Nat.pow_le_pow_right (by decide) (by omega)
      _ ≤ x.units * 10 ^ (-e).toNat := Nat.le_mul_of_pos_left _ (Nat.pos_of_ne_zero hx)
  have hvalue : d * unitsPerOne ≤ 10 ^ places * 10 ^ 330 := Nat.mul_le_mul (Nat.le_of_lt hd) unitsPerOne_le
  have hpos : 0 < 10 ^ places * 10 ^ 330 := by positivity
  rw [← Nat.mul_assoc] at hten
  generalize 10 ^ places * 10 ^ 330 = w at *
  omega

/-- A decimal in the basin of a number is read as the number. -/
theorem ofDecimal_of_inBasin {d places : Nat} {e : Int} (hx : x.units ≠ 0) (h : x.InBasin d e)
    (hd : d < 10 ^ places) : Binary64.ofDecimal x.negative d places e = .finite x := by
  have hlow := exponent_ge_of_inBasin hx h hd
  have hhigh := exponent_le_of_inBasin hx h
  unfold InBasin at h
  unfold Binary64.ofDecimal
  rw [if_neg (inBasin_pos hx h), if_neg (by omega), if_neg (by omega)]
  split_ifs with hsign
  · rw [(by omega : (-e).toNat = 0), pow_zero] at h
    exact ofRatio_of_contains Nat.one_pos h
  · rw [(by omega : e.toNat = 0), pow_zero, Nat.mul_one] at h
    exact ofRatio_of_contains (Nat.pow_pos (by decide)) h

/-- Zeros are read with their sign. -/
theorem ofDecimal_zero (hx : x.units = 0) (places : Nat) (e : Int) :
    Binary64.ofDecimal x.negative 0 places e = .finite x := by
  obtain ⟨negative, significand, scale, hsig, hscale, hnormal⟩ := x
  have hzero : significand = 0 := by
    rcases Nat.mul_eq_zero.1 hx with h | h
    · exact h
    · exact absurd h (Nat.ne_of_gt (Nat.two_pow_pos _))
  subst hzero
  obtain rfl : scale = 0 := hnormal.resolve_left (by decide)
  rfl

end Finite64

end RecordPrint
