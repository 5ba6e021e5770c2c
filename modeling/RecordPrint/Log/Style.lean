import RecordPrint.Number.Numeral

/-!
# Styles

A style is a list of effects, each of which one escape sequence starts and another one ends. A text in a
style may hold such sequences itself: where one ends an effect of the style, the effect starts again. A
stretch of a line between two sequences that reset everything is left out of the style, and so is the end
of a line.
-/

namespace RecordPrint

/-- The pieces of `t` between the occurrences of `mark`; there is one more piece than occurrences. The
first code point of `mark` must not occur in it again, so that occurrences never overlap. -/
def Text.splitOnMark (t mark : Text) : List Text :=
  t.foldr (fun c pieces =>
    match pieces with
    | [] => [[c]]
    | p :: ps =>
      match dropStart? mark (c :: p) with
      | some rest => [] :: rest :: ps
      | none => (c :: p) :: ps) [[]]

/-- The escape sequences that start and end an effect. -/
structure Effect where
  opening : Text
  closing : Text
  deriving DecidableEq

namespace Effect

/-- An escape sequence with a parameter. -/
def sequence (parameter : Nat) : Text := "\x1b[" ++ Numeral.ofNat parameter ++ "m"

/-- The sequence that ends all effects. -/
def reset : Text := sequence 0

/-- The effect that starts and ends with sequences of two parameters. -/
def ofParameters (opening closing : Nat) : Effect := ⟨sequence opening, sequence closing⟩

/-- A foreground colour. -/
def colour (parameter : Nat) : Effect := ofParameters parameter 39

/-- Less intensity. -/
def dimmed : Effect := ofParameters 2 22

/-- A text in which the effect starts again wherever it ends. -/
def reopen (t : Text) (e : Effect) : Text := Text.join (e.closing ++ e.opening) (t.splitOnMark e.closing)

end Effect

/-- The effects that a text has, in the order in which they start and also end. -/
structure Style where
  effects : List Effect
  deriving DecidableEq

namespace Style

/-- The sequences that start all effects of a style. -/
def opening (s : Style) : Text := (s.effects.map Effect.opening).flatten

/-- The sequences that end all effects of a style. -/
def closing (s : Style) : Text := (s.effects.map Effect.closing).flatten

/-- The pieces of a line between resets, with the style ended before every other one of them and started
again behind it. A last reset that has no counterpart changes nothing. -/
def aroundResets (s : Style) : List Text → Text
  | before :: inside :: behind :: ps =>
    before ++ s.closing ++ Effect.reset ++ inside ++ Effect.reset ++ s.opening ++
      aroundResets s (behind :: ps)
  | ps => Text.join Effect.reset ps

def withinLine (s : Style) (t : Text) : Text :=
  s.aroundResets ((s.effects.foldl Effect.reopen t).splitOnMark Effect.reset)

/-- A line with the style ended before its end and started again behind it. -/
def endLine (s : Style) (t : Text) : Text :=
  if t.getLast? = some (.char '\r') then t.dropLast ++ s.closing ++ "\r\n" ++ s.opening
  else t ++ s.closing ++ "\n" ++ s.opening

/-- Lines one after the other. -/
def joinLines (s : Style) : List Text → Text
  | [] => []
  | [t] => t
  | t :: ts => s.endLine t ++ joinLines s ts

def apply (s : Style) (t : Text) : Text :=
  s.opening ++ s.joinLines ((t.splitOnPoint (.char '\n')).map s.withinLine) ++ s.closing

end Style

end RecordPrint
