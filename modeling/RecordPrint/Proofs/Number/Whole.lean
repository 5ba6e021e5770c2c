import RecordPrint.Proofs.Number.Digits

/-!
# Numerals of integers of any size

An integer has one canonical numeral, and it is written as this numeral whether in one go or in blocks of digits.

* `Numeral.IsNumeralOf` — a text is the canonical numeral of an integer;
* `isNumeralOf_iff_eq_ofInt`, `signedValue_ofInt` — there is no other one, and the integer is read back from it;
* `inBlocks_eq`, `whole_eq_ofInt` — the blocks of an integer other than zero, one behind the other, are its numeral, so
  it is written in full however long it is.
-/

namespace RecordPrint

namespace Numeral

/-- The canonical numeral of an integer: digits without needless zeros whose value is its magnitude, behind a minus
sign if and only if it is negative. -/
def IsNumeralOf (n : Int) (t : Text) : Prop :=
  ∃ ds, IsCanonical ds ∧ value ds = n.natAbs ∧ t = if n < 0 then .char '-' :: ds else ds

/-- The integer that a numeral with or without a minus sign stands for. -/
def signedValue (t : Text) : Int := if t.head? = some (.char '-') then -(value t.tail : Int) else value t

theorem ofInt_eq_ite (n : Int) : ofInt n = if n < 0 then .char '-' :: ofNat n.natAbs else ofNat n.natAbs := by
  unfold ofInt sign
  split <;> rfl

/-- The canonical numeral of an integer is the only one. -/
theorem isNumeralOf_iff_eq_ofInt {n : Int} {t : Text} : IsNumeralOf n t ↔ t = ofInt n := by
  rw [ofInt_eq_ite]
  constructor
  · rintro ⟨ds, hds, hvalue, rfl⟩
    rw [← hvalue, ofNat_value hds]
  · intro h
    exact ⟨ofNat n.natAbs, isCanonical_ofNat _, value_ofNat _, h⟩

theorem signedValue_ofInt (n : Int) : signedValue (ofInt n) = n := by
  rw [ofInt_eq_ite, signedValue]
  split
  · rename_i hneg
    rw [List.head?_cons, if_pos rfl, List.tail_cons, value_ofNat]
    omega
  · rw [if_neg (head_ne_minus (isDigits_ofNat _)), value_ofNat]
    omega

/-! ### Blocks -/

theorem blocks_of_ne_zero {n : Nat} (hn : n ≠ 0) :
    blocks n = blocks (n / 10 ^ blockDigits) ++ [n % 10 ^ blockDigits] := by
  rw [blocks, dif_neg hn]
  simp only [Nat.pow_eq]

/-- The highest block of a number without zeros in front, and the other ones with them, are its numeral. -/
theorem exists_blocks (n : Nat) (hn : n ≠ 0) :
    ∃ first rest, blocks n = first :: rest ∧ ofNat first ++ rest.flatMap (padded blockDigits) = ofNat n := by
  induction n using Nat.strong_induction_on with
  | _ n ih =>
    rw [blocks_of_ne_zero hn]
    by_cases hhigh : 10 ^ blockDigits ≤ n
    · have hpow : 1 < 10 ^ blockDigits := Nat.one_lt_pow (by decide) (by decide)
      have hpos : n / 10 ^ blockDigits ≠ 0 := Nat.ne_of_gt (Nat.div_pos hhigh (by omega))
      obtain ⟨first, rest, hblocks, htext⟩ := ih _ (Nat.div_lt_self (by omega) hpow) hpos
      refine ⟨first, rest ++ [n % 10 ^ blockDigits], by rw [hblocks]; rfl, ?_⟩
      calc ofNat first ++ (rest ++ [n % 10 ^ blockDigits]).flatMap (padded blockDigits)
        _ = ofNat (n / 10 ^ blockDigits) ++ padded blockDigits (n % 10 ^ blockDigits) := by
          rw [List.flatMap_append, ← List.append_assoc, htext, List.flatMap_singleton]
        _ = ofNat n := ofNat_div_append (by decide) hhigh
    · have hlow : n < 10 ^ blockDigits := Nat.lt_of_not_le hhigh
      refine ⟨n, [], ?_, by simp⟩
      rw [Nat.div_eq_of_lt hlow, Nat.mod_eq_of_lt hlow, blocks, dif_pos rfl]
      rfl

/-- An integer other than zero is written block by block as in one go. -/
theorem inBlocks_eq {n : Int} (hn : n ≠ 0) : inBlocks n = ofInt n := by
  obtain ⟨first, rest, hblocks, htext⟩ := exists_blocks n.natAbs (Int.natAbs_ne_zero.2 hn)
  simp only [inBlocks, hblocks, ofInt, ← htext, List.append_assoc]

theorem whole_eq_ofInt (n : Int) : whole n = ofInt n := by
  unfold whole
  by_cases hlimit : (ofNat n.natAbs).length ≤ digitLimit
  · rw [limited?_eq_some hlimit, Option.getD_some]
  · have hn : n ≠ 0 := by
      rintro rfl
      exact hlimit (by decide)
    rw [limited?, if_neg hlimit, Option.getD_none, inBlocks_eq hn]

end Numeral

end RecordPrint
