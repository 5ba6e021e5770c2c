import RecordPrint.Text.Quoted
import RecordPrint.Text.Similar

/-!
# Command syntax

The arguments of a command are options and operands. A long option starts with two hyphens and may carry
its value behind an equals sign; short ones are a hyphen and a letter, several of which may share the
hyphen, and a value may follow without a blank. Two hyphens by themselves end the options.
-/

namespace RecordPrint

structure OptionSpec where
  short : Option CodePoint
  long : Text
  takesValue : Bool

/-- What a command accepts. -/
structure CommandSpec where
  options : List OptionSpec
  /-- Whether options may follow operands. -/
  mixed : Bool

/-- Why arguments do not fit a command. -/
inductive UsageFault where
  | noSuchOption (name : Text) (similar : List Text)
  | noSuchCommand (name : Text) (similar : List Text)
  | valueMissing (name : Text)
  | valueNotTaken (name : Text)
  | extraOperands (operands : List Text)
  | badChoice (option value : Text) (choices : List Text)
  deriving DecidableEq

/-- Whether a text is not behind another one in the order of their code points. -/
def Text.notBehind : Text → Text → Bool
  | [], _ => true
  | _ :: _, [] => false
  | c :: s, d :: t => if c.toNat = d.toNat then notBehind s t else c.toNat < d.toNat

/-- Texts in the order of their code points. -/
def Text.sorted (ts : List Text) : List Text := ts.mergeSort Text.notBehind

/-- The hint at words that may have been meant, several of them in their order. -/
def similarHint : List Text → Text
  | [] => []
  | [word] => " Did you mean " ++ word.quoted ++ "?"
  | words =>
    " (Did you mean one of: " ++ Text.join ", " ((Text.sorted words).map Text.quoted) ++ "?)"

namespace UsageFault

/-- The description of why arguments do not fit. -/
def message : UsageFault → Text
  | noSuchOption name similar => "No such option " ++ name.quoted ++ "." ++ similarHint similar
  | noSuchCommand name similar => "No such command " ++ name.quoted ++ "." ++ similarHint similar
  | valueMissing name => "Option " ++ name.quoted ++ " requires an argument."
  | valueNotTaken name => "Option " ++ name.quoted ++ " does not take a value."
  | extraOperands operands =>
    "Got unexpected extra argument" ++ (if operands.length = 1 then [] else "s" : Text) ++ " (" ++
      Text.join " " operands ++ ")"
  | badChoice option value choices =>
    "Invalid value for " ++ option.quoted ++ ": " ++ value.quoted ++ " is not one of " ++
      Text.join ", " (choices.map Text.quoted) ++ "."

/-- Whether the usage of the command is shown along with a fault. Where the value of an option is at
fault the parser does not know the command. -/
def showsUsage : UsageFault → Bool
  | valueMissing _ | valueNotTaken _ => false
  | _ => true

end UsageFault

/-- The options and operands that arguments give, in their order. Options go by their long names. -/
structure Arguments where
  options : List (Text × Option Text)
  operands : List Text
  deriving DecidableEq

namespace Arguments

def none : Arguments := ⟨[], []⟩

/-- The arguments with some options in front. -/
def withOptions (options : List (Text × Option Text)) (a : Arguments) : Arguments :=
  { a with options := options ++ a.options }

def withOperand (operand : Text) (a : Arguments) : Arguments :=
  { a with operands := operand :: a.operands }

/-- How often an option is given. -/
def count (a : Arguments) (name : Text) : Nat := (a.options.filter fun o => o.1 = name).length

/-- The values given for an option. -/
def values (a : Arguments) (name : Text) : List Text :=
  a.options.filterMap fun o => if o.1 = name then o.2 else Option.none

/-- The value given last for an option. -/
def value? (a : Arguments) (name : Text) : Option Text := (a.values name).getLast?

end Arguments

namespace CommandSpec

/-- What an argument gives: options, and perhaps the names of one that takes the next argument as its
value, the long one and the one that was used. -/
abbrev Reading := List (Text × Option Text) × Option (Text × Text)

/-- The option of a long name. -/
def long? (spec : CommandSpec) (name : Text) : Option OptionSpec :=
  spec.options.find? fun o => o.long = name

/-- The option of a letter. -/
def short? (spec : CommandSpec) (letter : CodePoint) : Option OptionSpec :=
  spec.options.find? fun o => o.short = some letter

/-- Reads the letters behind a hyphen. -/
def readLetters (spec : CommandSpec) : Text → Except UsageFault Reading
  | [] => .ok ([], none)
  | letter :: rest =>
    match spec.short? letter with
    | none => .error (.noSuchOption [.char '-', letter] [])
    | some o =>
      if o.takesValue then
        if rest = [] then .ok ([], some (o.long, [.char '-', letter]))
        else .ok ([(o.long, some rest)], none)
      else (spec.readLetters rest).map fun r => ((o.long, none) :: r.1, r.2)

/-- Reads an argument that starts with a hyphen and has more behind it. -/
def readOption (spec : CommandSpec) (argument : Text) : Except UsageFault Reading :=
  let (name, value) := argument.cut (.char '=')
  match spec.long? name, value with
  | some o, some value =>
    if o.takesValue then .ok ([(o.long, some value)], none) else .error (.valueNotTaken name)
  | some o, none => if o.takesValue then .ok ([], some (o.long, name)) else .ok ([(o.long, none)], none)
  | none, _ =>
    if argument.startsWith "--" then
      .error (.noSuchOption name (name.similarAmong (spec.options.map OptionSpec.long)))
    else spec.readLetters argument.tail

def read (spec : CommandSpec) : List Text → Except UsageFault Arguments
  | [] => .ok .none
  | argument :: rest =>
    if argument = ("--" : Text) then .ok ⟨[], rest⟩
    else if argument.head? = some (.char '-') ∧ argument.length ≠ 1 then do
      match ← spec.readOption argument, rest with
      | (options, none), rest => return (← spec.read rest).withOptions options
      | (_, some (_, used)), [] => throw (.valueMissing used)
      | (options, some (name, _)), value :: rest =>
        return (← spec.read rest).withOptions (options ++ [(name, some value)])
    else if spec.mixed then (spec.read rest).map (·.withOperand argument)
    else .ok ⟨[], argument :: rest⟩

end CommandSpec

end RecordPrint
