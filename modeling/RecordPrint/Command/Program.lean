import RecordPrint.Command.Help
import RecordPrint.Command.Version

/-!
# The program

The program reads its own options, starts the log and performs a subcommand. Without a subcommand it
shows its help. Arguments that ask for help are answered before anything else is done with them.
-/

namespace RecordPrint

/-- How a run ends before its end. -/
inductive Ending where
  /-- The run is done. -/
  | finished
  /-- The arguments do not fit a command. -/
  | misused (c : Command) (f : UsageFault)
  | stopped (s : Stop)
  deriving DecidableEq

namespace Ending

def exitCode : Ending → Nat
  | finished => 0
  | stopped (.crash _) => 1
  | misused _ _ => 2
  | stopped (.failure f) => f.kind.exitCode

/-- What an ending leaves on standard error; `called` is how the program is. -/
def report (called : Text) : Ending → Text
  | misused c f => c.usageReport called f
  | stopped (.failure f) => "Error: " ++ f.message ++ "\n"
  | finished | stopped (.crash _) => []

def crash? : Ending → Option Crash
  | stopped (.crash c) => some c
  | _ => none

end Ending

/-- What the program does with a session. -/
abbrev Program := ExceptT Ending (StateM Session)

namespace Program

def perform (a : Action Unit) : Program Unit := a.adapt Ending.stopped

/-- Reads the arguments of a command, and shows its help if they ask for it. -/
def read (called : Text) (c : Command) (arguments : List Text) : Program Arguments := do
  match c.spec.read arguments with
  | .error f => throw (.misused c f)
  | .ok a =>
    if a.count Command.helpOption.long = 0 then return a
    modify (·.print (c.help called))
    throw .finished

/-- The level that messages have to reach: the one of the environment if it names one, or else the one
that the arguments ask for. -/
def threshold (setting : Option Text) (a : Arguments) : Except Stop Level := do
  let chosen ← (verbosityLevel (a.count "--verbose") (a.count "--quiet")).mapError Stop.failure
  let asked ← (Level.ofEnvironment setting).mapError fun f => Stop.crash (.level f)
  return asked.getD chosen

def start (a : Arguments) : Program Unit := do
  let level ← liftExcept ((threshold (← get).setting a).mapError Ending.stopped)
  modify fun s => { s with threshold := level }

/-- The hint that precedes the help where no subcommand is given. -/
def hint : Text := "Hint: use 'recordout render [INPUT]' to render records.\n\n"

def performCommand (c : Command) (a : Arguments) : Program Unit :=
  match c with
  | .program => return
  | .render =>
    match Rendering.ofArguments a with
    | .error f => throw (.misused c f)
    | .ok r => perform r.run
  | .version =>
    match VersionForm.ofArguments a with
    | .error f => throw (.misused c f)
    | .ok form => perform (form.tell .current)

/-- The rendering that arguments ask for, if they ask for one. -/
def rendering? (arguments : List Text) : Option Rendering := do
  let a ← (Command.program.spec.read arguments).toOption
  let name ← a.operands.head?
  if Command.ofName? name = some .render then
    let b ← (Command.render.spec.read a.operands.tail).toOption
    (Rendering.ofArguments b).toOption
  else none

/-- What the program does with its arguments. -/
def body (called : Text) (arguments : List Text) : Program Unit := do
  let a ← read called .program arguments
  match a.operands with
  | [] =>
    start a
    modify (·.print (hint ++ Command.help called .program))
  | name :: rest =>
    match Command.ofName? name with
    | some c =>
      start a
      performCommand c (← read called c rest)
    | none =>
      let _ ← read called .program a.operands
      throw (.misused .program
        (.noSuchCommand name (name.similarAmong (Command.subcommands.map Command.name))))

/-- Runs the program in a session: the session afterwards, and how the run ended. -/
def run (called : Text) (arguments : List Text) (s : Session) : Session × Ending :=
  let (result, after) := StateT.run (ExceptT.run (body called arguments)) s
  let ending := match result with
    | .ok _ => .finished
    | .error ending => ending
  (after.complain (ending.report called), ending)

end Program

end RecordPrint
