import RecordPrint.System.Fault
import RecordPrint.Text.Utf8

/-!
# Sinks

A sink takes chunks of text one after the other. It may fail after some number of chunks, and it may
refuse text that has no encoding; a refused chunk leaves it as it was.
-/

namespace RecordPrint

/-- Why a sink does not take a chunk. -/
inductive StreamFault where
  | system (f : SystemFault)
  | encoding (f : EncodeFault)
  deriving DecidableEq

/-- The number of chunks that a sink still takes, and the fault of all later ones. -/
structure Budget where
  left : Nat
  fault : SystemFault
  deriving DecidableEq

/-- A receiver of text. -/
structure Sink where
  /-- The chunks taken so far. -/
  chunks : List Text
  budget : Option Budget
  /-- Whether only text that has an encoding is taken. -/
  encoded : Bool
  deriving DecidableEq

namespace Sink

/-- A sink that takes everything. -/
def unlimited : Sink := ⟨[], none, false⟩

/-- A sink that takes all text that has an encoding. -/
def ofBytes : Sink := ⟨[], none, true⟩

/-- A sink that takes some chunks and then fails. -/
def failing (after : Nat) (fault : SystemFault) : Sink := ⟨[], some ⟨after, fault⟩, false⟩

def text (s : Sink) : Text := s.chunks.flatten

/-- What keeps a text from being encoded, if this matters to the sink. -/
def encodingFault? (s : Sink) (t : Text) : Option EncodeFault :=
  if s.encoded then Utf8.surrogates? 0 t else none

/-- The sink after one more chunk. -/
def put (s : Sink) (t : Text) : Except StreamFault Sink :=
  match s.encodingFault? t, s.budget with
  | some f, _ => .error (.encoding f)
  | none, none => .ok { s with chunks := s.chunks ++ [t] }
  | none, some ⟨0, fault⟩ => .error (.system fault)
  | none, some ⟨left + 1, fault⟩ =>
    .ok { s with chunks := s.chunks ++ [t], budget := some ⟨left, fault⟩ }

/-- The sink after as many of the chunks as it takes, and the fault of the first one it refuses. -/
def putAll (s : Sink) : List Text → Sink × Option StreamFault
  | [] => (s, none)
  | t :: ts =>
    match s.put t with
    | .ok s => s.putAll ts
    | .error f => (s, some f)

end Sink

end RecordPrint
