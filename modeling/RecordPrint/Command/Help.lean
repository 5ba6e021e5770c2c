import RecordPrint.Command.Syntax

/-!
# Commands and their help

What each command accepts, how it is used, and what its help says.
-/

namespace RecordPrint

/-- The commands: the program itself and its subcommands. -/
inductive Command where
  | program
  | render
  | version
  deriving DecidableEq

namespace Command

def subcommands : List Command := [render, version]

def name : Command → Text
  | program => []
  | render => "render"
  | version => "version"

def ofName? (t : Text) : Option Command := subcommands.find? fun c => c.name = t

/-- The option that asks for help. -/
def helpOption : OptionSpec := ⟨some (.char 'h'), "--help", false⟩

/-- What a command accepts. -/
def spec : Command → CommandSpec
  | program =>
    ⟨[⟨some (.char 'q'), "--quiet", false⟩, ⟨some (.char 'v'), "--verbose", false⟩, helpOption], false⟩
  | render =>
    ⟨[⟨some (.char 'f'), "--format", true⟩, ⟨some (.char 'o'), "--output", true⟩,
      ⟨some (.char 'c'), "--column", true⟩, helpOption], true⟩
  | version => ⟨[⟨none, "--format", true⟩, helpOption], true⟩

/-- The command as it is called; `called` is how the program is. -/
def path (called : Text) : Command → Text
  | program => called
  | c => called ++ .char ' ' :: c.name

/-- The operands and options that the usage of a command shows. -/
def pattern : Command → Text
  | program => "[OPTIONS] [COMMAND] [ARGS]..."
  | render => "[OPTIONS] INPUT"
  | version => "[OPTIONS]"

/-- How a command is used. -/
def usage (called : Text) (c : Command) : Text :=
  "Usage: " ++ c.path called ++ .char ' ' :: c.pattern

/-- The lines of the help of a command behind its usage. -/
def helpLines : Command → List String
  | program =>
    ["",
      "  RecordOut CLI: render records as JSON or CSV.",
      "",
      "Options:",
      "  -q, --quiet    Only log errors.",
      "  -v, --verbose  Increase log verbosity. Specify up to three times for more",
      "                 detail.",
      "  -h, --help     Show this message and exit.",
      "",
      "Commands:",
      "  render   Render JSON or NDJSON records as JSON or CSV.",
      "  version  Show the current version of RecordOut."]
  | render =>
    ["",
      "  Render JSON or NDJSON records as JSON or CSV.",
      "",
      "Options:",
      "  -f, --format TEXT          Output format (json, csv); case-insensitive.",
      "                             [default: csv]",
      "  -o, --output TEXT          Write to this file (created with mode 0600) instead",
      "                             of STDOUT.",
      "  -c, --column NAME[=LABEL]  CSV column to emit, optionally relabelled. Repeat",
      "                             to select and order columns.",
      "  -h, --help                 Show this message and exit.",
      "",
      "  INPUT is a file holding a JSON array of objects or one JSON object per line;",
      "  use '-' (the default) to read from STDIN.",
      "",
      "  Unknown formats write nothing."]
  | version =>
    ["",
      "  Show the current version of RecordOut.",
      "",
      "Options:",
      "  --format [text|json|csv]  Output format.  [default: text]",
      "  -h, --help                Show this message and exit."]

def help (called : Text) (c : Command) : Text :=
  (c.usage called :: c.helpLines.map Text.ofString).flatMap fun line => line ++ [.char '\n']

/-- The report of arguments that do not fit a command. -/
def usageReport (called : Text) (c : Command) (f : UsageFault) : Text :=
  let usage : Text :=
    if f.showsUsage then c.usage called ++ "\nTry '" ++ c.path called ++ " --help' for help.\n\n"
    else []
  let reason : Text := "Error: " ++ f.message ++ "\n"
  usage ++ reason

end Command

end RecordPrint
