import RecordPrint.Number.Binary64
import RecordPrint.Text.Quoted

/-!
# Arguments of templates

What can stand in the places of a template, how it is handed out to them, and why a template cannot be
filled in.
-/

namespace RecordPrint

/-- What an argument that is a number is worth. -/
inductive Amount where
  | whole (n : Int)
  | real (x : Binary64)

/-- The forms of an argument that a template can ask for. -/
structure Argument where
  /-- The argument as it is displayed. -/
  displayed : Text
  /-- The argument as it is shown in messages. -/
  shown : Text
  isText : Bool
  /-- What the argument is worth, if it is a number. -/
  worth : Option Amount
  typeName : Text

/-- Why a template cannot be filled in. -/
inductive TemplateFault where
  | tooFew
  | tooMany
  | incomplete
  /-- A name in parentheses has no end. -/
  | incompleteName
  | needsMapping
  /-- There is no argument of a name. -/
  | noArgument (name : Text)
  /-- The letter of a place is not known. -/
  | unknownForm (letter : CodePoint) (offset : Nat)
  /-- A width or a precision is not given by an integer. -/
  | notExtent
  /-- The integer given for a width or a precision is out of range. -/
  | extentRange
  | widthTooBig
  | precisionTooBig
  /-- An integer is needed, but the argument is of type `type`. -/
  | notNumber (letter : CodePoint) (type : Text)
  /-- A number of any kind is needed, but the argument is of type `type`. -/
  | notReal (type : Text)
  /-- An infinity has no integer part. -/
  | infinityAsInteger
  | nanAsInteger
  /-- An integer is beyond the range of the numbers with a fraction. -/
  | integerAsReal
  | notCharacter
  | characterRange
  /-- There is no room for a text of the width or the precision of a place. -/
  | noRoom
  deriving DecidableEq

/-- The description of why a template cannot be filled in. A letter is named if it is printable ASCII. -/
def TemplateFault.message : TemplateFault → Text
  | tooFew => "not enough arguments for format string"
  | tooMany => "not all arguments converted during string formatting"
  | incomplete => "incomplete format"
  | incompleteName => "incomplete format key"
  | needsMapping => "format requires a mapping"
  | noArgument name => name.quoted
  | unknownForm letter offset =>
    "unsupported format character '" ++
      [if 31 ≤ letter.toNat ∧ letter.toNat ≤ 126 then letter else .char '?'] ++ "' (0x" ++
      Text.ofChars (Nat.toDigits 16 letter.toNat) ++ ") at index " ++
      Text.ofChars (Nat.toDigits 10 offset)
  | notExtent => "* wants int"
  | extentRange => "* out of range"
  | widthTooBig => "width too big"
  | precisionTooBig => "precision too big"
  | notNumber letter type =>
    .char '%' :: letter :: " format: " ++
      (if letter = .char 'd' ∨ letter = .char 'i' ∨ letter = .char 'u' then "a real number"
        else "an integer" : Text) ++
      " is required, not " ++ type
  | notReal type => "must be real number, not " ++ type
  | infinityAsInteger => "cannot convert float infinity to integer"
  | nanAsInteger => "cannot convert float NaN to integer"
  | integerAsReal => "int too large to convert to float"
  | notCharacter => "%c requires int or char"
  | characterRange => "%c arg not in range(0x110000)"
  | noRoom => []

namespace Amount

/-- An amount without its fraction. -/
def toInt : Amount → Except TemplateFault Int
  | whole n => .ok n
  | real .nan => .error .nanAsInteger
  | real (.infinite _) => .error .infinityAsInteger
  | real (.finite x) =>
    let n : Int := (x.units / Binary64.unitsPerOne : Nat)
    .ok (if x.negative then -n else n)

/-- The number of the 64-bit binary format nearest to an amount. -/
def toReal : Amount → Except TemplateFault Binary64
  | real x => .ok x
  | whole n =>
    match Binary64.ofRatio (n < 0) n.natAbs 1 with
    | .infinite _ => .error .integerAsReal
    | x => .ok x

end Amount

/-- The arguments of a template: those that are left for the next places, and, if places can ask for
arguments by their names, all that have one. -/
structure Supply where
  left : List Argument
  named : Option (List (Text × Argument))

namespace Supply

/-- Arguments that are used up in their order. -/
def inOrder (arguments : List Argument) : Supply := ⟨arguments, none⟩

/-- Arguments that are asked for by their names; once, all of them can be asked for together. -/
def byName (all : Argument) (arguments : List (Text × Argument)) : Supply := ⟨[all], some arguments⟩

def isEmpty (s : Supply) : Bool := s.left.isEmpty && s.named.isNone

/-- Whether nothing is left that a template has to use. Named arguments need not be used. -/
def isUsedUp (s : Supply) : Bool := s.left.isEmpty || s.named.isSome

/-- The next argument, and the supply without it. -/
def next (s : Supply) : Except TemplateFault (Argument × Supply) :=
  match s.left with
  | [] => .error .tooFew
  | a :: more => .ok (a, { s with left := more })

/-- The arguments that have names. -/
def entries (s : Supply) : Except TemplateFault (List (Text × Argument)) :=
  match s.named with
  | none => .error .needsMapping
  | some entries => .ok entries

/-- The supply with the argument of a name as the only one that is left. -/
def choose (s : Supply) (name : Text) : Except TemplateFault Supply :=
  s.entries.bind fun entries =>
    match entries.find? fun e => e.1 = name with
    | some e => .ok { s with left := [e.2] }
    | none => .error (.noArgument name)

end Supply

end RecordPrint
