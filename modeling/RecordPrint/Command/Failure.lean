import RecordPrint.Document.Destination
import RecordPrint.Json.Records

/-!
# Failures of commands

A command that fails says why and exits with a number that tells the kind of failure.
-/

namespace RecordPrint

inductive FailureKind where
  /-- The command was used in a wrong way. -/
  | usage
  /-- Records cannot be read or written. -/
  | encoding
  | notFound
  | inputOutput
  | denied
  deriving DecidableEq

/-- The number with which a command exits after a failure. -/
def FailureKind.exitCode : FailureKind → Nat
  | usage => 64
  | encoding => 65
  | notFound => 66
  | inputOutput => 74
  | denied => 77

structure Failure where
  kind : FailureKind
  message : Text
  deriving DecidableEq

/-- The failure that a fault of the system brings during an action. -/
def SystemFault.toFailure (f : SystemFault) (action : Text) : Failure where
  kind := if f.isNoEntry then .notFound else if f.isDenied then .denied else .inputOutput
  message := action ++ ": " ++ f.message

/-- What stops a command without being one of its failures. -/
inductive Crash where
  /-- A level that is no numeral although it looks like one. -/
  | level (f : Numeral.ReadError)
  /-- A path that holds the character that ends paths. -/
  | path
  /-- An integer of the input with too many digits. -/
  | integer (digits : Nat)
  /-- A record that cannot be read for other reasons than its values. -/
  | record (f : Fault)
  deriving DecidableEq

/-- The description of what stops a command. -/
def Crash.message : Crash → Text
  | level f => f.message
  | path => OpenFault.embeddedNull.message
  | integer digits => (Numeral.ReadError.tooLong digits).message
  | record f => f.message

/-- Why a command does not finish. -/
inductive Stop where
  | failure (f : Failure)
  | crash (c : Crash)
  deriving DecidableEq

/-- Whether a fault is one of the values of a record. -/
def Fault.isValueFault : Fault → Bool
  | noAttribute _ _ | raised .key _ | raised .attribute _ => false
  | _ => true

/-- What a fault of the input brings; `source` is the name of the input. -/
def InputFault.toStop (f : InputFault) (source : Text) : Stop :=
  match f with
  | .json _ (.tooLong digits) => .crash (.integer digits)
  | _ => .failure ⟨.encoding, "invalid input " ++ source ++ ": " ++ f.message⟩

/-- What input that is no text brings. -/
def DecodeFault.toStop (f : DecodeFault) (source : Text) : Stop :=
  .failure ⟨.encoding, "invalid input " ++ source ++ ": " ++ f.message⟩

/-- What an unreadable input brings. -/
def OpenFault.toReadStop (f : OpenFault) (source : Text) : Stop :=
  match f with
  | .system f => .failure (f.toFailure ("cannot read " ++ source))
  | .embeddedNull => .crash .path

/-- The failure of records that cannot be written. -/
def encodingFailure (message : Text) : Stop :=
  .failure ⟨.encoding, "cannot encode records: " ++ message⟩

/-- What a failed delivery brings; `target` is the name of the destination. -/
def DeliveryFault.toStop (f : DeliveryFault) (target : Text) : Stop :=
  let refused (f : SystemFault) : Stop := .failure (f.toFailure ("cannot write " ++ target))
  match f with
  | .opening (.system f) => refused f
  | .opening .embeddedNull => encodingFailure OpenFault.embeddedNull.message
  | .writing (.stream (.system f)) => refused f
  | .writing (.stream (.encoding f)) => encodingFailure f.message
  | .writing (.record f) => if f.isValueFault then encodingFailure f.message else .crash (.record f)

end RecordPrint
