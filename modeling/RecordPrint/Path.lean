import RecordPrint.Text.Case

/-!
# Paths

A path is kept in normal form: empty components and the components `.` are dropped. Two kinds are
known, slash paths and drive paths, which accept both slashes, may start with a drive letter or the name
of a share, and are written with backslashes.
-/

namespace RecordPrint

/-- A path in normal form: what it starts at, and the components below. -/
structure Path where
  anchor : Text
  components : List Text
  separator : CodePoint
  deriving DecidableEq

namespace Path

/-- The components between separators, without the empty ones and the ones naming the same place. -/
def componentsOf (sep : CodePoint) (t : Text) : List Text :=
  (t.splitOnPoint sep).filter fun c => c ≠ [] ∧ c ≠ [.char '.']

/-- The path that a slash-separated text names. Exactly two slashes at the start are kept apart from one
or more than two. -/
def ofSlashes (t : Text) : Path where
  anchor :=
    match (t.takeWhile (· = .char '/')).length with
    | 0 => []
    | 2 => "//"
    | _ => "/"
  components := componentsOf (.char '/') t
  separator := .char '/'

def isDriveLetter : CodePoint → Bool
  | .char c => c.isAlpha
  | .surrogate _ => false

/-- The mark of extended paths at the start of a text, if it is there, and the text behind it. The mark
of an extended share takes the place of its first backslash. -/
def cutExtended (t : Text) : Text × Text :=
  match Text.dropStart? "\\\\?\\" t with
  | none => ([], t)
  | some rest =>
    match Text.dropStart? "UNC\\" rest with
    | none => ("\\\\?\\", rest)
    | some share => ("\\\\?\\UNC", "\\\\" ++ share)

/-- The name of a share at the start of a text: two backslashes, a server, a backslash and a name that is
not empty. The rest is what is behind the backslash after it. -/
def cutShare? (t : Text) : Option (Text × Text) :=
  match Text.dropStart? "\\\\" t with
  | none => none
  | some (.char '\\' :: _) => none
  | some body =>
    match body.cut (.char '\\') with
    | (_, none) => none
    | (server, some rest) =>
      match rest.cut (.char '\\') with
      | ([], some _) => none
      | (name, below) => some ("\\\\" ++ server ++ .char '\\' :: name, below.getD [])

/-- The drive or share, the root and the rest of a text with backslashes only. -/
def cutDrive (t : Text) : Text × Text × Text :=
  let (mark, t) := if t.startsWith "\\\\" then cutExtended t else ([], t)
  match cutShare? t with
  | some (share, below) =>
    (if mark = [] then share else mark ++ share.drop 1, "\\", below)
  | none =>
    let (drive, t) := match t with
      | c :: .char ':' :: rest => if isDriveLetter c then ([c, .char ':'], rest) else ([], t)
      | _ => ([], t)
    (mark ++ drive, if Text.startsWith t "\\" then "\\" else [], t.dropWhile (· = .char '\\'))

/-- The path that a text with slashes, backslashes and drive letters names. -/
def ofDrive (t : Text) : Path :=
  let (drive, root, rest) := cutDrive (t.map fun c => if c = .char '/' then .char '\\' else c)
  { anchor := drive ++ root, components := componentsOf (.char '\\') rest, separator := .char '\\' }

/-- A path as text; the empty path is `.`. -/
def text (p : Path) : Text :=
  match p.anchor ++ Text.join [p.separator] p.components with
  | [] => "."
  | t => t

/-- The pieces of a path, what it starts at included. -/
def pieces (p : Path) : List Text := if p.anchor = [] then p.components else p.anchor :: p.components

/-- Whether two paths are the same: drive paths are also the same if they only differ in capitals. -/
def isSame (p q : Path) : Bool :=
  p.separator = q.separator &&
    if p.separator = .char '/' then p.pieces = q.pieces
    else p.pieces.map Text.lower = q.pieces.map Text.lower

end Path

end RecordPrint
