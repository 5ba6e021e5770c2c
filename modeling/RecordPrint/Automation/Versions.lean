import RecordPrint.Value

/-!
# Supported versions

The versions of the language that a project supports are listed among the classifiers of its project
table. They are given without repetition in numeric order; a project that lists none supports the
version that is running.
-/

namespace RecordPrint

structure LanguageVersion where
  major : Nat
  minor : Nat
  deriving DecidableEq

namespace LanguageVersion

/-- A version as text: two numerals and a dot in between. -/
def text (v : LanguageVersion) : Text := Numeral.ofNat v.major ++ .char '.' :: Numeral.ofNat v.minor

/-- Whether a version comes before another. -/
def before (v w : LanguageVersion) : Bool :=
  v.major < w.major || v.major = w.major && v.minor < w.minor

/-- Versions in order with one more put into its place; one that is there is not put in again. -/
def insert (v : LanguageVersion) : List LanguageVersion → List LanguageVersion
  | [] => [v]
  | w :: ws =>
    if v.before w then v :: w :: ws
    else if v = w then w :: ws
    else w :: insert v ws

/-- Versions in order without repetition. -/
def ordered (vs : List LanguageVersion) : List LanguageVersion := vs.foldr insert []

/-- How a classifier that names a version starts. -/
def classifierStart : Text := "Programming Language :: Python :: "

/-- The version that a classifier names, if it names one: two texts of digits and a dot in between, with
blanks around them. -/
def ofClassifier? (t : Text) : Except Numeral.ReadError (Option LanguageVersion) :=
  match Text.dropStart? classifierStart t with
  | none => .ok none
  | some rest =>
    match rest.trim.splitOnPoint (.char '.') with
    | [major, minor] =>
      if major.isDigits && minor.isDigits then do
        return some ⟨← Numeral.read major, ← Numeral.read minor⟩
      else .ok none
    | _ => .ok none

/-- The versions that are supported where some are named: these in order and without repetition, or the
running one if there are none. -/
def supported (running : LanguageVersion) (named : List LanguageVersion) : List LanguageVersion :=
  match ordered named with
  | [] => [running]
  | vs => vs

end LanguageVersion

/-- Why the classifiers of a project are not read. -/
inductive ClassifierFault where
  /-- Something of type `type` stands in the place of the list. -/
  | notIterable (type : Text)
  /-- Something of type `type` stands in the place of a classifier. -/
  | notText (type : Text)
  /-- A part of a version is no numeral. -/
  | numeral (f : Numeral.ReadError)
  deriving DecidableEq

/-- The description of why classifiers are not read. -/
def ClassifierFault.message : ClassifierFault → Text
  | notIterable type => (Fault.notIterable type).message
  | notText type => (Fault.noAttribute type "startswith").message
  | numeral f => f.message

structure VersionSupport where
  versions : List LanguageVersion
  warnings : List Text
  deriving DecidableEq

namespace VersionSupport

/-- What is taken as the list of classifiers: an array, the points of a text or the names of a table.
What counts as nothing is an empty list. -/
def classifierItems : Json → Except ClassifierFault (List Json)
  | .array items => .ok items
  | .object entries => .ok (entries.map fun e => .leaf (.text e.1))
  | .leaf .null | .leaf (.bool false) | .leaf (.int 0) => .ok []
  | .leaf (.text t) => .ok (t.map fun c => .leaf (.text [c]))
  | .leaf (.float (.finite x)) =>
    if x.significand = 0 then .ok [] else .error (.notIterable "float")
  | .leaf s => .error (.notIterable s.typeName)

/-- The versions that the items of a list of classifiers name. Each item is read before the next. -/
def namedVersions : List Json → Except ClassifierFault (List LanguageVersion)
  | [] => .ok []
  | .leaf (.text t) :: items => do
    let v ← (LanguageVersion.ofClassifier? t).mapError .numeral
    return v.toList ++ (← namedVersions items)
  | .leaf s :: _ => .error (.notText s.typeName)
  | .array _ :: _ => .error (.notText "list")
  | .object _ :: _ => .error (.notText "dict")

/-- The warning about a project without a project table. -/
def noTableWarning (running : LanguageVersion) : Text :=
  "Could not find 'project' table in pyproject.toml. Falling back to Python " ++ running.text ++ "."

/-- The versions that a project supports, by its configuration and the version that is running. -/
def ofConfiguration (running : LanguageVersion) (configuration : List (Text × Json)) :
    Except ClassifierFault VersionSupport :=
  match configuration.lookup ("project" : Text) with
  | some (.object table) => do
    let items ← classifierItems ((table.lookup ("classifiers" : Text)).getD (.leaf .null))
    return ⟨LanguageVersion.supported running (← namedVersions items), []⟩
  | _ => .ok ⟨[running], [noTableWarning running]⟩

/-- The configuration of a project with these classifiers. -/
def project (ts : List Text) : List (Text × Json) :=
  [("project", .object [("classifiers", .array (ts.map fun t => .leaf (.text t)))])]

end VersionSupport

end RecordPrint
