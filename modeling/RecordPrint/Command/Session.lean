import RecordPrint.Command.Failure
import RecordPrint.Log.Line
import RecordPrint.Log.Progress

/-!
# Sessions

What a command works with: the files it can see, its input, the setting of the environment and what it
has written so far to standard output and to standard error. An action changes the session and may stop;
what it did before stays done.
-/

namespace RecordPrint

/-- What a command works with. -/
structure Session where
  directory : Directory
  /-- Standard input. -/
  input : List UInt8
  /-- The setting of the environment for the level of messages. -/
  setting : Option Text
  /-- What log lines show as the place that logged them. -/
  site : Text
  /-- The level that messages have to reach. -/
  threshold : Level
  /-- Standard output. -/
  output : Sink
  /-- Standard error. -/
  errors : Text
  deriving DecidableEq

namespace Session

/-- The session after a text on standard output. -/
def print (s : Session) (t : Text) : Session := { s with output := (s.output.putAll [t]).1 }

/-- The session after a text on standard error. -/
def complain (s : Session) (t : Text) : Session := { s with errors := s.errors ++ t }

/-- The session after a message for the log. -/
def note (s : Session) (m : Message) : Session :=
  if Log.passes s.threshold m.level then
    s.complain (Log.line s.threshold m.level s.site m.text)
  else s

/-- The session after messages for the log. -/
def notes (s : Session) (ms : List Message) : Session := ms.foldl note s

end Session

/-- What a command does with a session: it changes it, and it may stop. -/
abbrev Action := ExceptT Stop (StateM Session)

namespace Action

def log (ms : List Message) : Action Unit := modify fun s => s.notes ms

/-- Goes on with a result, or stops. -/
def ofResult {α : Type} (r : Except Stop α) : Action α := liftExcept r

end Action

end RecordPrint
