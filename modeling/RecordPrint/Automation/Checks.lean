import RecordPrint.Automation.Versions
import RecordPrint.Json.Shown

/-!
# Project checks

The checks of the project are sequences of calls to a build environment: messages, installations and
commands. A call that fails ends a check.
-/

namespace RecordPrint

/-- What a call to the build environment asks for. -/
inductive CallKind where
  | log
  | install
  | run
  deriving DecidableEq

/-- A call to the build environment. -/
structure Call where
  kind : CallKind
  arguments : List Text
  deriving DecidableEq

inductive Check where
  | quality
  | properties
  | lint
  | formatCheck
  | format
  | package
  deriving DecidableEq

/-- Why a check ends before its end. -/
inductive CheckFailure where
  | commandFailed
  /-- The version that the check runs on is not a text, or is empty; it is shown as `shown`. -/
  | unexpectedVersion (shown : Text)
  deriving DecidableEq

/-- The description of why a check ends. -/
def CheckFailure.message : CheckFailure → Text
  | commandFailed => "command failed"
  | unexpectedVersion shown => "Unexpected session.python value: " ++ shown

namespace Check

def name : Check → Text
  | quality => "qa"
  | properties => "property_test"
  | lint => "lint"
  | formatCheck => "format_check"
  | format => "format"
  | package => "package_check"

/-- All checks, by name. -/
def all : List Check := [format, formatCheck, lint, package, properties, quality]

def ofName? (t : Text) : Option Check := all.find? fun c => c.name = t

def defaults : List Check := [lint, formatCheck]

/-- What makes the environments of the checks by default. -/
def backend : Text := "uv"

/-- The classifiers of this project. -/
def projectClassifiers : List Text :=
  ["Development Status :: 4 - Beta", "Environment :: Console",
    "License :: OSI Approved :: MIT License", "Programming Language :: Python :: 3",
    "Programming Language :: Python :: 3.11", "Programming Language :: Python :: 3.12",
    "Programming Language :: Python :: 3.13", "Topic :: Utilities"]

/-- The versions that this project supports, by its own configuration. -/
def projectVersions (running : LanguageVersion) : List LanguageVersion :=
  ((VersionSupport.ofConfiguration running (VersionSupport.project projectClassifiers)).toOption.map
    VersionSupport.versions).getD []

/-- The versions that a check is run on. -/
inductive Versions where
  /-- Any version. -/
  | any
  | one (v : LanguageVersion)
  | each (vs : List LanguageVersion)
  deriving DecidableEq

/-- The versions that a check is run on by default, where `running` is the one that is running. -/
def versions (running : LanguageVersion) : Check → Versions
  | quality => .each (projectVersions running)
  | properties | package => .one running
  | lint | formatCheck | format => .any

def log (t : Text) : Call := ⟨.log, [t]⟩

def install (packages : List Text) : Call := ⟨.install, packages⟩

def command (words : List Text) : Call := ⟨.run, words⟩

/-- The calls of a check, and why it then fails, if it does. `version` is the version that the check
runs on, `extra` holds further arguments for the tests. -/
def calls (running : LanguageVersion) (version : Json) (extra : List Text) :
    Check → List Call × Option CheckFailure
  | quality =>
    let tests : List Call :=
      [log ("Supported Python versions: " ++
          Text.join ", " ((projectVersions running).map LanguageVersion.text)),
        install ["-e", ".[test]", "pyright"],
        command ("pytest" :: "-q" :: "tests" :: "-m" :: "not hypothesis_slow" :: extra)]
    match version with
    | .leaf (.text (c :: t)) =>
      (tests ++ [command ["pyright", "--pythonversion", c :: t]], none)
    | d => (tests, some (.unexpectedVersion (shownData d)))
  | properties =>
    ([install ["-e", ".[test]"],
      command ("pytest" :: "-q" :: "tests" :: "-m" :: "hypothesis_slow" :: extra)], none)
  | lint => ([install ["ruff"], command ["ruff", "check", "."]], none)
  | formatCheck => ([install ["ruff"], command ["ruff", "format", "--check", "."]], none)
  | format => ([install ["ruff"], command ["ruff", "format", "."]], none)
  | package =>
    ([install ["build", "twine"],
      command ["python", "-c", "import shutil; shutil.rmtree('dist', ignore_errors=True)"],
      command ["python", "-m", "build", "--sdist", "--wheel"],
      command ["twine", "check", "dist/*"]], none)

/-- The calls that are made when the one with a number, counted from one, fails, and why the check
ends then. -/
def run (running : LanguageVersion) (version : Json) (extra : List Text) (failing : Option Nat) (c : Check) :
    List Call × Option CheckFailure :=
  match c.calls running version extra, failing with
  | (cs, failure), some n =>
    if 0 < n ∧ n ≤ cs.length then (cs.take n, some .commandFailed) else (cs, failure)
  | (cs, failure), none => (cs, failure)

end Check

end RecordPrint
