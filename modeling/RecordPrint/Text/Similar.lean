import RecordPrint.Text.CodePoint

/-!
# Similar texts

Two texts are similar if most of their code points match: the longest common piece, and so on to the
left and to the right of it. This finds the word that was meant by one that is not known.
-/

namespace RecordPrint

namespace Text

/-- The length of the common start of two texts. -/
def commonStart : Text → Text → Nat
  | c :: s, d :: t => if c = d then commonStart s t + 1 else 0
  | _, _ => 0

/-- A common piece of two texts: where it starts in each, and its length. -/
structure Piece where
  left : Nat
  right : Nat
  length : Nat

/-- The longest common piece, of several the one that starts first. -/
def longestPiece (s t : Text) : Piece :=
  let pieces := (List.range s.length).flatMap fun i =>
    (List.range t.length).map fun j => Piece.mk i j (commonStart (s.drop i) (t.drop j))
  pieces.foldl (fun best p => if best.length < p.length then p else best) ⟨0, 0, 0⟩

/-- The number of matching code points, looking for at most `fuel` nested pieces. -/
def matching : (fuel : Nat) → Text → Text → Nat
  | 0, _, _ => 0
  | fuel + 1, s, t =>
    let p := longestPiece s t
    if p.length = 0 then 0
    else p.length + matching fuel (s.take p.left) (t.take p.right) +
      matching fuel (s.drop (p.left + p.length)) (t.drop (p.right + p.length))

/-- Whether at least six in ten code points of two texts match. -/
def isSimilar (s t : Text) : Bool :=
  6 * (s.length + t.length) ≤ 20 * matching s.length s t

/-- The words that are similar to a text, the best matches first, at most three. -/
def similarAmong (words : List Text) (t : Text) : List Text :=
  let better (a b : Text) : Bool :=
    matching b.length b t * (a.length + t.length) ≤ matching a.length a t * (b.length + t.length)
  ((words.filter fun w => isSimilar w t).mergeSort better).take 3

end Text

end RecordPrint
