import RecordPrint.Path
import RecordPrint.System.Fault
import RecordPrint.Text.Utf8

/-!
# Directories

The files that a program can see from the directory it runs in, each with its content and its mode, and
two devices that swallow what is written to them. Files are opened for reading or, created if needed and
emptied if there, for writing; a refusal names the reason that is met first on the way along the path.
-/

namespace RecordPrint

inductive Device where
  /-- A device that takes everything. -/
  | null
  /-- A device that has no space. -/
  | full
  deriving DecidableEq

/-- What a path can lead to. -/
inductive DirectoryEntry where
  | file (content : List UInt8) (mode : Nat)
  | directory
  | device (d : Device)
  deriving DecidableEq

/-- The way from the directory that a program runs in, up first and then down, or from the root. -/
abbrev Place := List Text

/-- The entries that can be seen from a directory, by their places. -/
abbrev Directory := List (Place × DirectoryEntry)

/-- Where text that is written goes. -/
inductive WriteTarget where
  | file (place : Place)
  | device (d : Device)
  deriving DecidableEq

/-- Why a file is not opened. -/
inductive OpenFault where
  | system (f : SystemFault)
  /-- The path holds the character that ends paths. -/
  | embeddedNull
  deriving DecidableEq

/-- The description of why a file is not opened. -/
def OpenFault.message : OpenFault → Text
  | system f => f.message
  | embeddedNull => "embedded null byte"

namespace Directory

/-- The number of bytes that the name of an entry may have. -/
def nameLimit : Nat := 255

/-- The number of bytes that a path has to stay below. -/
def pathLimit : Nat := 4096

/-- The mode of files that are created: reading and writing for the owner only. -/
def createdMode : Nat := 0o600

/-- The component that leads up. -/
def parent : Text := ".."

/-- The place that absolute paths start at. -/
def root : Place := ["/"]

/-- Whether a place is the directory itself or one of those above it. -/
def isUpward (place : Place) : Bool := place.all (· = parent)

/-- The place above a place; the root has nothing above it. -/
def above (place : Place) : Place :=
  if place = root then root else if isUpward place then place ++ [parent] else place.dropLast

/-- The entries that are always there, apart from the directory itself and those above it. -/
def fixed : Directory :=
  [(root, .directory), (["/", "dev"], .directory), (["/", "dev", "null"], .device .null),
    (["/", "dev", "full"], .device .full)]

def entry? (d : Directory) (place : Place) : Option DirectoryEntry :=
  if isUpward place then some .directory else (fixed.lookup place).or (d.lookup place)

/-- Whether a name is too long for an entry. -/
def isTooLong (name : Text) : Bool := nameLimit < (Utf8.encodeChars name).length

/-- The place that components lead to from the place `walked`, or the number of the reason why they
lead nowhere: each but the last has to be a directory. -/
def walkFrom (d : Directory) : (walked : Place) → (components : List Text) → Except Int Place
  | walked, [] => .ok walked
  | walked, name :: more =>
    if name = parent then walkFrom d (above walked) more
    else if isTooLong name then .error SystemFault.nameTooLong
    else if more = [] then .ok (walked ++ [name])
    else match d.entry? (walked ++ [name]) with
      | none => .error SystemFault.noEntry
      | some (.file _ _) | some (.device _) => .error SystemFault.notDirectory
      | some .directory => walkFrom d (walked ++ [name]) more

/-- What is behind the last separator of a path. -/
def lastPiece (path : Text) : Text := ((path.splitOnPoint (.char '/')).getLast?).getD []

/-- Whether a path ends in a separator, so that only a directory can be meant. -/
def endsOpen (path : Text) : Bool := lastPiece path = []

/-- Whether a path ends in the component of the same place, so that what is in front of it has to be a
directory. -/
def endsInPlace (path : Text) : Bool := lastPiece path = [.char '.']

def refuse {α : Type} (number : Int) (path : Text) : Except OpenFault α :=
  .error (.system (.ofNumber number (some path)))

def start (path : Text) : Place := if path.head? = some (.char '/') then root else []

def walk (d : Directory) (path : Text) : Except OpenFault Place :=
  if path.contains (.char '\x00') then .error .embeddedNull
  else if path = [] then refuse SystemFault.noEntry path
  else if pathLimit ≤ (Utf8.encodeChars path).length then refuse SystemFault.nameTooLong path
  else match d.walkFrom (start path) (Path.componentsOf (.char '/') path) with
    | .error number => refuse number path
    | .ok place => .ok place

/-- The places that components lead past from the place `walked`. -/
def stops : (walked : Place) → (components : List Text) → List Place
  | _, [] => []
  | walked, name :: more =>
    let next := if name = parent then above walked else walked ++ [name]
    next :: stops next more

/-- The places that a path leads past. -/
def placesOn (path : Text) : List Place :=
  stops (start path) (Path.componentsOf (.char '/') path)

/-- The shortest path that leads to a place. -/
def pathTo (place : Place) : Text :=
  if place.head? = some "/" then .char '/' :: Text.join "/" place.tail else Text.join "/" place

/-- What is written to when a path is opened for writing. -/
def writeTarget (d : Directory) (path : Text) : Except OpenFault WriteTarget := do
  let place ← d.walk path
  match d.entry? place with
  | some .directory => refuse SystemFault.isDirectory path
  | found =>
    if endsInPlace path then
      refuse (if found = none then SystemFault.noEntry else SystemFault.notDirectory) path
    else if endsOpen path then refuse SystemFault.isDirectory path
    else match found with
      | some (.device device) => return .device device
      | _ => return .file place

/-- The directory with the content of a file replaced; a file that is not there is created. -/
def put (d : Directory) (place : Place) (content : List UInt8) : Directory :=
  match d with
  | [] => [(place, .file content createdMode)]
  | (path, entry) :: more =>
    if path = place then
      match entry with
      | .file _ mode => (path, .file content mode) :: more
      | entry => (path, entry) :: more
    else (path, entry) :: put more place content

/-- The content of the file at a path in normal form; devices hold nothing. -/
def read (d : Directory) (path : Text) : Except OpenFault (List UInt8) := do
  match d.entry? (← d.walk path) with
  | some (.file content _) => return content
  | some (.device _) => return []
  | some .directory => refuse SystemFault.isDirectory path
  | none => refuse SystemFault.noEntry path

end Directory

end RecordPrint
