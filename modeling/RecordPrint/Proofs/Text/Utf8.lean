import RecordPrint.Text.Utf8
import RecordPrint.Proofs.Outcome

/-!
# Texts in bytes

* `decodeFrom_bytesOf` — the bytes of a character are read as this character, whatever stands behind them;
* `decodeFrom_encodeChars` — a text of characters is read back from its bytes.
-/

namespace RecordPrint

namespace Utf8

variable {n : Nat} {t : Text} {rest : List UInt8}

/-- The number of a character. -/
def IsCharacter (n : Nat) : Prop := n < 0xD800 ∨ 0xE000 ≤ n ∧ n < 0x110000

/-- A text has no lone surrogates. -/
def IsCharacters (t : Text) : Prop := ∀ c ∈ t, ∃ char, c = .char char

/-! ### One character -/

theorem toNat_continuation (n : Nat) : (continuation n).toNat = 0x80 + n % 64 := by
  rw [continuation, UInt8.toNat_ofNat']
  exact Nat.mod_eq_of_lt (by omega)

/-- A continuation byte within the bounds is read as the bits that it carries. -/
theorem readTail_continuation {low high : Nat} (count sound bits : Nat) (hlow : low ≤ 0x80 + n % 64)
    (hhigh : 0x80 + n % 64 ≤ high) : readTail low high (count + 1) sound bits (continuation n :: rest) =
      readTail 0x80 0xBF count (sound + 1) (bits * 64 + n % 64) rest := by
  rw [readTail, toNat_continuation, if_pos ⟨hlow, hhigh⟩, Nat.add_sub_cancel_left]

/-- A first byte and continuation bytes that complete a number are read as the code point of the number. -/
theorem decodeFrom_lead {b count bits low high : Nat} {tail : List UInt8} (position : Nat) (hb : b < 0x100)
    (hlead : lead? b = some ⟨count, bits, low, high⟩)
    (htail : readTail low high count 0 bits (tail ++ rest) = .ok (n, rest)) :
    decodeFrom position (.ofNat b :: tail ++ rest) =
      (decodeFrom (position + 1 + count) rest).map (CodePoint.ofNat n :: ·) := by
  have hbyte : (UInt8.ofNat b).toNat = b := by
    rw [UInt8.toNat_ofNat']
    exact Nat.mod_eq_of_lt hb
  have hlong : ¬ b < 0x80 := by
    intro h
    rw [lead?, if_pos (by omega)] at hlead
    cases hlead
  rw [List.cons_append, decodeFrom, hbyte, if_neg hlong]
  simp only [hlead]
  split
  · rename_i heq
    rw [htail] at heq
    cases heq
  · rename_i heq
    rw [htail] at heq
    cases heq
    rfl

theorem lead_two {k : Nat} (hlow : 2 ≤ k) (hhigh : k < 0x20) : lead? (0xC0 + k) = some ⟨1, k, 0x80, 0xBF⟩ := by
  rw [lead?, if_neg (by omega), if_pos (by omega), Nat.add_sub_cancel_left]

theorem lead_three {k : Nat} (hhigh : k < 0x10) : lead? (0xE0 + k) =
    some ⟨2, k, if k = 0 then 0xA0 else 0x80, if k = 0xD then 0x9F else 0xBF⟩ := by
  have hfirst : 0xE0 + k = 0xE0 ↔ k = 0 := by omega
  have hlast : 0xE0 + k = 0xED ↔ k = 0xD := by omega
  rw [lead?, if_neg (by omega), if_neg (by omega), if_pos (by omega), Nat.add_sub_cancel_left]
  simp only [hfirst, hlast]

theorem lead_four {k : Nat} (hhigh : k < 5) : lead? (0xF0 + k) =
    some ⟨3, k, if k = 0 then 0x90 else 0x80, if k = 4 then 0x8F else 0xBF⟩ := by
  have hfirst : 0xF0 + k = 0xF0 ↔ k = 0 := by omega
  have hlast : 0xF0 + k = 0xF4 ↔ k = 4 := by omega
  rw [lead?, if_neg (by omega), if_neg (by omega), if_neg (by omega), if_pos (by omega), Nat.add_sub_cancel_left]
  simp only [hfirst, hlast]

/-- The bytes of a character are read as the character. -/
theorem decodeFrom_bytesOf (hn : IsCharacter n) (position : Nat) (rest : List UInt8) :
    ∃ length, decodeFrom position (bytesOf n ++ rest) =
      (decodeFrom (position + length) rest).map (CodePoint.ofNat n :: ·) := by
  unfold IsCharacter at hn
  unfold bytesOf
  -- by the number of bytes; the bounds of the second byte keep out surrogates and what has a shorter form
  split
  · have hbyte : (UInt8.ofNat n).toNat = n := by
      rw [UInt8.toNat_ofNat']
      exact Nat.mod_eq_of_lt (by omega)
    refine ⟨1, ?_⟩
    rw [List.singleton_append, decodeFrom, hbyte, if_pos ‹_›]
  · split
    · refine ⟨1 + 1, decodeFrom_lead position (by omega) (lead_two (k := n / 64) (by omega) (by omega)) ?_⟩
      rw [List.singleton_append, readTail_continuation _ _ _ (by omega) (by omega), readTail]
      congr 2
      omega
    · split
      · refine ⟨1 + 2, decodeFrom_lead position (by omega) (lead_three (k := n / 4096) (by omega)) ?_⟩
        rw [List.cons_append, List.singleton_append,
          readTail_continuation _ _ _ (by split <;> omega) (by split <;> omega),
          readTail_continuation _ _ _ (by omega) (by omega), readTail]
        congr 2
        omega
      · refine ⟨1 + 3, decodeFrom_lead position (by omega) (lead_four (k := n / 262144) (by omega)) ?_⟩
        rw [List.cons_append, List.cons_append, List.singleton_append,
          readTail_continuation _ _ _ (by split <;> omega) (by split <;> omega),
          readTail_continuation _ _ _ (by omega) (by omega),
          readTail_continuation _ _ _ (by omega) (by omega), readTail]
        congr 2
        omega

/-! ### Texts -/

theorem isCharacter_toNat (c : Char) : IsCharacter c.toNat := c.valid

theorem ofNat_toNat_char (c : Char) : CodePoint.ofNat c.toNat = .char c := by
  have hvalid := isCharacter_toNat c
  unfold IsCharacter at hvalid
  rw [CodePoint.ofNat, dif_neg (by omega), Char.ofNat_toNat]

/-- A text of characters is read back from its bytes. -/
theorem decodeFrom_encodeChars (h : IsCharacters t) (position : Nat) : decodeFrom position (encodeChars t) = .ok t := by
  induction t generalizing position with
  | nil => rw [encodeChars, List.flatMap_nil, decodeFrom]
  | cons c t ih =>
    obtain ⟨char, rfl⟩ := h c List.mem_cons_self
    have hbytes : encodeChars (.char char :: t) = bytesOf char.toNat ++ encodeChars t := by
      rw [encodeChars, List.flatMap_cons, encodeChars]
    obtain ⟨length, hfirst⟩ := decodeFrom_bytesOf (isCharacter_toNat char) position (encodeChars t)
    rw [hbytes, hfirst, ih fun d hd => h d (List.mem_cons_of_mem _ hd), ofNat_toNat_char]
    rfl

theorem surrogates_eq_none_iff {position : Nat} : surrogates? position t = none ↔ IsCharacters t := by
  induction t generalizing position with
  | nil => simp [surrogates?, IsCharacters]
  | cons c t ih =>
    cases c with
    | surrogate u => simp [surrogates?, IsCharacters]
    | char c => simpa [surrogates?, IsCharacters] using ih

end Utf8

end RecordPrint
