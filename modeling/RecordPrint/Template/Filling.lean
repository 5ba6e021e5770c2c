import RecordPrint.Template.Form
import RecordPrint.Template.Place

/-!
# Filling templates in

A template is a text with places for arguments. `Text.fillIn` puts the arguments into the places from
the start to the end. Two percent signs stand for one. Arguments that are used in their order have to be
used up.
-/

namespace RecordPrint

namespace Template

/-- What an extent comes to, and the supply that is left. It has to fit into `bits` bits with a sign. -/
def Extent.resolve (bits : Nat) (tooBig : TemplateFault) (s : Supply) :
    Extent → Except TemplateFault (Option Int × Supply)
  | unset => .ok (none, s)
  | given n => if n < Nat.pow 2 (bits - 1) then .ok (some n, s) else .error tooBig
  | supplied => do
    let (a, s) ← s.next
    match a.worth with
    | some (.whole n) =>
      if -Nat.pow 2 (bits - 1) ≤ n ∧ n < Nat.pow 2 (bits - 1) then return (some n, s) else throw .extentRange
    | _ => throw .notExtent

/-- The supply from which a choice takes the next argument. -/
def Choice.resolve (s : Supply) : Choice → Except TemplateFault Supply
  | next => .ok s
  | named name => s.choose name
  | unclosed => s.entries.bind fun _ => .error .incompleteName

namespace Place

/-- The frame of a place of a width and a precision. A negative width asks for filling up at the right;
one that has no positive counterpart in 64 bits asks for nothing else. -/
def frame (p : Place) (width precision : Option Int) : Frame where
  left := p.flags.contains (.char '-') || width.any (· < 0)
  zeros := p.flags.contains (.char '0')
  alternate := p.flags.contains (.char '#')
  plus :=
    if p.flags.contains (.char '+') then "+" else if p.flags.contains (.char ' ') then " " else []
  width := match width with
    | some n => if n.natAbs < Nat.pow 2 63 then n.natAbs else 0
    | none => 0
  precision := precision.map Int.toNat

/-- What stands in a place, and the supply that is left. `offset` is where the letter of the place
stands. -/
def render (p : Place) (offset : Nat) (s : Supply) : Except TemplateFault (Text × Supply) := do
  let s ← p.choice.resolve s
  let (width, s) ← p.width.resolve 64 .widthTooBig s
  let (precision, s) ← p.precision.resolve 32 .precisionTooBig s
  match p.letter with
  | none => throw .incomplete
  | some letter =>
    let (a, s) ← s.next
    match Form.ofLetter? letter with
    | none => throw (.unknownForm letter offset)
    | some form =>
      let frame := p.frame width precision
      let formed ← frame.form letter a form
      if room < frame.width then throw .noRoom
      return (frame.render formed, s)

end Place

/-- What is left of a template of `length` code points, with arguments in its places. -/
def fill (length : Nat) (s : Supply) : Text → Except TemplateFault Text
  | [] => if s.isUsedUp then .ok [] else .error .tooMany
  | .char '%' :: .char '%' :: t => (fill length s t).map (.char '%' :: ·)
  | .char '%' :: t =>
    match (cutPlace t).1.render (length - (cutPlace t).2.length - 1) s with
    | .error f => .error f
    | .ok (first, s) => (fill length s (cutPlace t).2).map (first ++ ·)
  | c :: t => (fill length s t).map (c :: ·)
termination_by t => t.length
decreasing_by
  · simp only [List.length_cons]
    omega
  · exact Nat.lt_succ_of_le (length_cutPlace_le t)
  · exact Nat.lt_succ_self _

end Template

/-- A template with the arguments in their places. -/
def Text.fillIn (template : Text) (arguments : Supply) : Except TemplateFault Text :=
  Template.fill template.length arguments template

end RecordPrint
