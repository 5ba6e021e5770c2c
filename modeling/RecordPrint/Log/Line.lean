import RecordPrint.Log.Level
import RecordPrint.Log.Style

/-!
# Log lines

A message becomes a line that shows its level and, where the threshold is below that of information,
the place that logged it. The line is coloured by the highest threshold that its level reaches.
-/

namespace RecordPrint

namespace Style

/-- The style of levels below all thresholds: dimmed red. -/
def lowest : Style := ⟨[.dimmed, .colour 31]⟩

/-- The styles of the thresholds, the highest first. -/
def thresholds : List (Level × Style) :=
  [(Level.critical, 91), (Level.error, 31), (Level.warning, 33), (Level.info, 32), (Level.debug, 90),
    (Level.trace, 34)].map fun t => (t.1, ⟨[.colour t.2]⟩)

def ofLevel (level : Level) : Style :=
  ((thresholds.find? fun t => t.1 ≤ level).map Prod.snd).getD lowest

end Style

namespace Log

/-- A line of a log: `site` is the place that logged the message. -/
def line (threshold level : Level) (site message : Text) : Text :=
  let place : Text := if Level.info ≤ threshold then [] else site ++ " "
  (Style.ofLevel level).apply (.char '[' :: level.name ++ "] " ++ place ++ message) ++ [.char '\n']

/-- Whether a message of a level passes a threshold. Levels that are not positive never do. -/
def passes (threshold level : Level) : Bool := 0 < level && threshold ≤ level

end Log

end RecordPrint
