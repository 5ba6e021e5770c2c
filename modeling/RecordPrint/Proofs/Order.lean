import RecordPrint.Text.CodePoint

/-!
# Order of numbers and texts

Numbers that are made of a high and a low part are in the order of the high parts first, and texts in that of the first
code points that differ.

* `compare_mul_add` — the high part of a number decides before the low one;
* `Text.compare_append` — so does the front of a text before what is behind it, if both fronts are equally long.
-/

namespace RecordPrint

/-! ### Numbers -/

/-- Numbers that are in the order of their first parts, and where these are the same in that of their second ones. -/
theorem compare_eq_then {a b x y : Nat} {o : Ordering} (lt : x < y → a < b) (gt : y < x → b < a)
    (eq : x = y → compare a b = o) : compare a b = (compare x y).then o := by
  rcases Nat.lt_trichotomy x y with h | h | h
  · rw [Nat.compare_eq_lt.2 h, Nat.compare_eq_lt.2 (lt h), Ordering.lt_then]
  · rw [Nat.compare_eq_eq.2 h, eq h, Ordering.eq_then]
  · rw [Nat.compare_eq_gt.2 h, Nat.compare_eq_gt.2 (gt h), Ordering.gt_then]

theorem compare_add_left (k a b : Nat) : compare (k + a) (k + b) = compare a b := by
  simp only [Nat.compare_eq_ite_lt, Nat.add_lt_add_iff_left]

theorem compare_natCast (a b : Nat) : compare (a : Int) (b : Int) = compare a b := by
  simp only [Int.compare_eq_ite_lt, Nat.compare_eq_ite_lt, Int.ofNat_lt]

theorem compare_sub_right (a b k : Int) : compare (a - k) (b - k) = compare a b := by
  simp only [Int.compare_eq_ite_lt, Int.sub_lt_sub_right_iff]

theorem compare_mul_add {n x y u v : Nat} (hu : u < n) (hv : v < n) :
    compare (x * n + u) (y * n + v) = (compare x y).then (compare u v) := by
  have high {a b c d : Nat} (hc : c < n) (h : a < b) : a * n + c < b * n + d := by
    calc a * n + c < a * n + n := Nat.add_lt_add_left hc _
      _ = (a + 1) * n := (Nat.succ_mul a n).symm
      _ ≤ b * n := Nat.mul_le_mul_right n h
      _ ≤ b * n + d := Nat.le_add_right _ _
  refine compare_eq_then (high hu) (high hv) fun h => ?_
  rw [h, compare_add_left]

/-! ### Texts -/

namespace CodePoint

/-- Code points are in the order of their numbers, and so are texts, code point by code point. -/
instance : Ord CodePoint := ⟨compareOn toNat⟩

theorem compare_eq (c d : CodePoint) : compare c d = compare c.toNat d.toNat := rfl

theorem toNat_injective {c d : CodePoint} (h : c.toNat = d.toNat) : c = d := by
  -- no character has the number of half a surrogate pair
  have apart (c : Char) (u : Fin 2048) : c.toNat ≠ 0xD800 + u := by
    have hvalid : c.toNat < 0xD800 ∨ 0xDFFF < c.toNat ∧ c.toNat < 0x110000 := c.valid
    omega
  cases c with
  | char c =>
    cases d with
    | char d => exact congrArg char (Char.toNat_inj.1 h)
    | surrogate u => exact absurd h (apart c u)
  | surrogate u =>
    cases d with
    | char d => exact absurd h.symm (apart d u)
    | surrogate w => exact congrArg surrogate (Fin.ext (Nat.add_left_cancel h))

instance : Std.OrientedOrd CodePoint := inferInstanceAs (Std.OrientedCmp (compareOn toNat))

instance : Std.LawfulEqOrd CodePoint where
  eq_of_compare h := toNat_injective (Nat.compare_eq_eq.1 h)

end CodePoint

namespace Text

theorem compare_self (t : Text) : compare t t = .eq := Std.ReflOrd.compare_self

theorem compare_cons (c : CodePoint) (s t : Text) : compare (c :: s) (c :: t) = compare s t := by
  rw [List.compare_cons_cons, Std.ReflOrd.compare_self, Ordering.eq_then]

theorem compare_cons_lt {c d : CodePoint} (h : c.toNat < d.toNat) (s t : Text) : compare (c :: s) (d :: t) = .lt := by
  rw [List.compare_cons_cons, CodePoint.compare_eq, Nat.compare_eq_lt.2 h, Ordering.lt_then]

theorem compare_append {s t : Text} (h : s.length = t.length) (u v : Text) :
    compare (s ++ u) (t ++ v) = (compare s t).then (compare u v) := by
  induction s generalizing t with
  | nil =>
    rw [List.length_eq_zero_iff.1 h.symm, compare_self]
    rfl
  | cons c s ih =>
    cases t with
    | nil => cases h
    | cons d t =>
      rw [List.cons_append, List.cons_append, List.compare_cons_cons, List.compare_cons_cons, ih (Nat.succ.inj h),
        Ordering.then_assoc]

end Text

end RecordPrint
