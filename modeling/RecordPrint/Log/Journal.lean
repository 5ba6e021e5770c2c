import RecordPrint.Log.Line
import RecordPrint.Template.Filling

/-!
# Journals

A journal keeps what has been logged to each stream. Messages that reach the threshold go to all handlers, each of
which has a stream; all loggers share the handlers. Setting logging up replaces the handlers by one, and where no
threshold is given it is the one that the environment asks for at that time. A step that fails changes nothing.
-/

namespace RecordPrint

/-- A receiver of messages: its stream, and the threshold for which it makes lines. -/
structure Handler where
  stream : Nat
  threshold : Level
  deriving DecidableEq

/-- What is asked of a logger. -/
structure LogRequest where
  logger : Text
  /-- The level of the message; without one the logger is asked to trace. -/
  level : Option Level
  template : Text
  arguments : Supply

namespace LogRequest

/-- Whether a request goes to the root logger. -/
def isToRoot (r : LogRequest) : Bool := r.logger = [] || r.logger = ("root" : Text)

/-- The level that a request logs at. -/
def loggedAt (r : LogRequest) : Level := r.level.getD Level.trace

/-- The message of a request: a template without arguments is taken as it is. -/
def message (r : LogRequest) : Except TemplateFault Text :=
  if r.arguments.isEmpty then .ok r.template else r.template.fillIn r.arguments

end LogRequest

/-- The streams of a log, what is installed, and the setting of the environment. -/
structure Journal where
  environment : Option Text
  /-- The level that messages have to reach. -/
  threshold : Level
  /-- The handlers, in the order in which they were installed. -/
  handlers : List Handler
  /-- The lines of each stream, the earliest first. -/
  lines : Nat → List Text

/-- A step of a run. -/
inductive LogStep where
  | environment (setting : Option Text)
  | setUp (threshold : Option Level) (stream : Nat)
  /-- A request from a place in the code. -/
  | request (site : Text) (r : LogRequest)

namespace Journal

/-- A journal without handlers and lines. -/
def empty : Journal := ⟨none, Level.warning, [], fun _ => []⟩

/-- The journal with another setting of the environment. -/
def setEnvironment (j : Journal) (setting : Option Text) : Journal :=
  { j with environment := setting }

/-- The threshold that is installed: the given one, or the one that the environment asks for. -/
def chosen (j : Journal) : Option Level → Except Numeral.ReadError Level
  | some level => .ok level
  | none => Level.threshold j.environment

def removeHandler (j : Journal) (h : Handler) : Journal := { j with handlers := j.handlers.erase h }

def addHandler (j : Journal) (h : Handler) : Journal := { j with handlers := j.handlers ++ [h] }

/-- The journal with all messages that pass the threshold going to a stream. -/
def setUp (j : Journal) (threshold : Option Level) (stream : Nat) : Except Numeral.ReadError Journal := do
  let level ← j.chosen threshold
  let bare := j.handlers.foldl removeHandler { j with threshold := level }
  return bare.addHandler ⟨stream, level⟩

/-- The journal with a line at the end of one of its streams. -/
def append (j : Journal) (stream : Nat) (line : Text) : Journal :=
  { j with lines := fun s => if s = stream then j.lines s ++ [line] else j.lines s }

/-- The journal with a message of a level given to a handler. -/
def emit (level : Level) (site message : Text) (j : Journal) (h : Handler) : Journal :=
  j.append h.stream (Log.line h.threshold level site message)

/-- The journal after a request. The root logger cannot trace. A message that cannot be made is not logged, and one
whose level cannot be shown is refused, unless it does not pass the threshold. -/
def submit (j : Journal) (site : Text) (r : LogRequest) : Except Fault Journal :=
  if r.level = none ∧ r.isToRoot then .error (.noAttribute "RootLogger" "trace")
  else if !Log.passes j.threshold r.loggedAt then .ok j
  else if !r.loggedAt.isShown then .error .tooManyDigits
  else match r.message with
    | .ok t => .ok (j.handlers.foldl (emit r.loggedAt site t) j)
    | .error _ => .ok j

/-- The journal after a step. -/
def step (j : Journal) : LogStep → Journal
  | .environment setting => j.setEnvironment setting
  | .setUp threshold stream => (j.setUp threshold stream).toOption.getD j
  | .request site r => (j.submit site r).toOption.getD j

/-- The journal after some steps. -/
def run (j : Journal) (steps : List LogStep) : Journal := steps.foldl step j

end Journal

end RecordPrint
