import RecordPrint.Document.Formatter

/-!
# Runs

A formatter is bound to one stream and writes to it step by step. In each step a selector is set and records are
handed over, as a list or as an iterator, which is used up where its records are taken. Without a format they are
not taken. Whatever a step comes to, the next one goes on with the same stream.
-/

namespace RecordPrint

/-- A stream that a formatter is bound to. -/
structure Stream where
  sink : Sink
  closed : Bool
  deriving DecidableEq

/-- An open stream. -/
def Stream.opened (sink : Sink) : Stream := ⟨sink, false⟩

/-- Records as they are handed over. -/
inductive Handover where
  | list (records : List Value)
  | iterator (records : List Value)
  deriving DecidableEq

namespace Handover

def records : Handover → List Value
  | list rs | iterator rs => rs

/-- What is left once the records are taken. -/
def taken : Handover → Handover
  | list rs => list rs
  | iterator _ => iterator []

end Handover

/-- A step of a run: the selector that it sets, and the records that it hands over. -/
structure WriteStep where
  selector : Option Text
  handover : Handover

/-- What a step comes to. -/
structure StepOutcome where
  stream : Stream
  /-- What is left of the records that were handed over. -/
  left : Handover
  fault : Option WriteFault
  deriving DecidableEq

namespace Formatter

def selecting (f : Formatter) (selector : Option Text) : Formatter := { f with selector := selector }

/-- One step on a stream. -/
def step (f : Formatter) (σ : Store) (schema : Schema) (s : WriteStep) (stream : Stream) : StepOutcome :=
  let g := f.selecting s.selector
  let (sink, fault) := g.write σ schema s.handover.records stream.sink
  ⟨{ stream with sink := sink }, if g.format?.isSome then s.handover.taken else s.handover, fault⟩

/-- The stream after some steps. -/
def run (f : Formatter) (σ : Store) (schema : Schema) (steps : List WriteStep) (stream : Stream) : Stream :=
  steps.foldl (fun stream s => (f.step σ schema s stream).stream) stream

end Formatter

end RecordPrint
