import RecordPrint.Command.Render

/-!
# Telling the version

The version is told as a line of text, or as a document with one record that also tells what the program
runs on.
-/

namespace RecordPrint

/-- What is told about a release of the program, and where it runs. -/
structure Release where
  tool : Text
  version : Text
  runtime : Text
  system : Text
  deriving DecidableEq

namespace Release

def current : Release := ⟨"recordout", "0.3.0", "3.11.0", "Linux"⟩

def shapeName : Text := "VersionInfo"

def textField (name : Text) (tag : Option Text) : FieldDecl := ⟨name, .builtin "str", tag, none⟩

/-- The declaration of the shape of the record of a release. -/
def decl : ShapeDecl where
  name := shapeName
  kind := .data
  bases := []
  fields := [textField "tool" none, textField "version" none,
    textField "python" (some "python_version"), textField "system" none]
  computed := []
  exports := false
  tabular := none

def toInstance (r : Release) : Instance where
  shape := shapeName
  attributes := [("tool", .text r.tool), ("version", .text r.version), ("python", .text r.runtime),
    ("system", .text r.system)]
  items := []
  entries := []
  computed := []
  exported := .ok .null

def schema : Schema := .ofDecls [decl]

/-- A store of nothing but the record of a release. -/
def store (r : Release) : Store := #[.instance r.toInstance]

def value : Value := .object 0

end Release

inductive VersionForm where
  | line
  | document (f : Format)
  deriving DecidableEq

namespace VersionForm

def name : VersionForm → Text
  | line => "text"
  | document f => f.name

def all : List VersionForm := [line, document .json, document .csv]

/-- A choice in small letters; the long s counts as an s. -/
def folded (t : Text) : Text := t.lower.map fun c => if c = .char 'ſ' then .char 's' else c

/-- The form that arguments ask for; there are no operands. -/
def ofArguments (a : Arguments) : Except UsageFault VersionForm :=
  let choice := (a.value? "--format").getD line.name
  match all.find? fun form => form.name = folded choice, a.operands with
  | none, _ => .error (.badChoice "--format" choice (all.map name))
  | some _, extra@(_ :: _) => .error (.extraOperands extra)
  | some form, [] => .ok form

/-- The formatter of the record of a release. -/
def formatter (f : Format) : Formatter := ⟨some f.name, ⟨some (.shape Release.shapeName), none⟩⟩

/-- Tells about a release. A document that does not end its last line is followed by a line end. -/
def tell (r : Release) : VersionForm → Action Unit
  | line => modify (·.print (r.version ++ "\n"))
  | document f => do
    Rendering.deliver (formatter f) r.store Release.schema [Release.value] []
    if f = .json then modify (·.print "\n")

end VersionForm

end RecordPrint
