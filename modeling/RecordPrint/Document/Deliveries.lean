import RecordPrint.Document.Destination

/-!
# Runs of deliveries

Deliveries one after the other, each to a destination of its own. What is delivered is a document or some pieces of
text. Whatever a delivery comes to, the next one finds the files and standard output as they are left.
-/

namespace RecordPrint

/-- What is delivered. -/
inductive Cargo where
  | document (f : Formatter) (records : List Value)
  | pieces (ts : List Text)

/-- A step of a run: the name of a destination, and what is delivered there. -/
structure DeliveryStep where
  name : Option Text
  cargo : Cargo

/-- What deliveries find and leave: the files and standard output. -/
structure Surroundings where
  directory : Directory
  output : Sink

/-- What a delivery leaves. -/
def Delivery.left (d : Delivery) : Surroundings := ⟨d.directory, d.output⟩

/-- The sink after something has been written to it. -/
def Cargo.write (σ : Store) (schema : Schema) (c : Cargo) (sink : Sink) : Sink × Option WriteFault :=
  match c with
  | document f records => f.write σ schema records sink
  | pieces ts => ((sink.putAll ts).1, (sink.putAll ts).2.map .stream)

namespace Destination

/-- One delivery. -/
def step (σ : Store) (schema : Schema) (s : DeliveryStep) (found : Surroundings) : Delivery :=
  deliver s.name found.directory found.output (s.cargo.write σ schema)

/-- What some deliveries leave. -/
def run (σ : Store) (schema : Schema) (steps : List DeliveryStep) (found : Surroundings) : Surroundings :=
  steps.foldl (fun found s => (step σ schema s found).left) found

end Destination

end RecordPrint
