import RecordPrint.Fault
import RecordPrint.Text.Case

/-!
# Log levels

A level is an integer; some have names. A text names a level by name, in small or capital letters, or
by its numeral; blanks around it do not matter. A text of digits that is no numeral is refused.
-/

namespace RecordPrint

/-- A log level. -/
abbrev Level := Int

namespace Level

/-- The level of messages that follow every step. -/
def trace : Level := 5
def debug : Level := 10
def info : Level := 20
def warning : Level := 30
def error : Level := 40
def critical : Level := 50

/-- The names of levels, with the names under which lines show them first. -/
def names : List (String × Level) :=
  [("TRACE", trace), ("DEBUG", debug), ("INFO", info), ("WARNING", warning), ("ERROR", error),
    ("CRITICAL", critical), ("NOTSET", 0), ("WARN", warning), ("FATAL", critical)]

/-- The name of a level, as lines show it. -/
def name (level : Level) : Text :=
  match names.find? fun n => n.2 = level with
  | some n => n.1
  | none => "Level " ++ Numeral.ofInt level

/-- Whether lines can show a level: its numeral, if it has no name, must not be too long. -/
def isShown (level : Level) : Bool := (names.any fun n => n.2 = level) || (Numeral.limited? level).isSome

/-- The level that a text names; none if it names none. -/
def parse (t : Text) : Except Numeral.ReadError (Option Level) :=
  let word := t.trim.capitals
  if word.isDigits then (Numeral.read word).map fun n => some (n : Int)
  else .ok ((names.find? fun n => Text.ofString n.1 = word).map Prod.snd)

/-- The level that the environment asks for; an empty text asks for none. -/
def ofEnvironment (setting : Option Text) : Except Numeral.ReadError (Option Level) :=
  match setting with
  | none | some [] => .ok none
  | some t => parse t

/-- The threshold of a program that sets none itself: the level of the environment unless it is zero,
or else the critical one. -/
def threshold (setting : Option Text) : Except Numeral.ReadError Level :=
  (ofEnvironment setting).map fun
    | none | some 0 => critical
    | some level => level

end Level

end RecordPrint
