import RecordPrint.Document.Formatter
import RecordPrint.System.Directory

/-!
# Destinations

A document goes to standard output or to a file. A missing or empty name selects standard output, which
stays open; a file is created or emptied first, filled chunk by chunk and closed in any case. A device
without space refuses what it was given when it is closed.
-/

namespace RecordPrint

/-- Why a document does not reach its destination. -/
inductive DeliveryFault where
  | opening (f : OpenFault)
  | writing (f : WriteFault)
  deriving DecidableEq

structure Delivery where
  /-- The files afterwards. -/
  directory : Directory
  /-- Standard output afterwards. -/
  output : Sink
  /-- Whether a file was opened. -/
  opened : Bool
  /-- Whether the stream was closed afterwards. -/
  closed : Bool
  fault : Option DeliveryFault
  deriving DecidableEq

namespace Destination

/-- Whether a name selects standard output. -/
def isStandard (name : Option Text) : Bool := name.getD [] = []

/-- The fault that closing a device brings: one without space refuses what was written to it. -/
def closingFault? (device : Device) (sink : Sink) : Option WriteFault :=
  match device with
  | .null => none
  | .full =>
    if sink.text = [] then none
    else some (.stream (.system (.ofNumber SystemFault.noSpace none)))

/-- Delivers what a writer writes to a sink to the destination of a name. -/
def deliver (name : Option Text) (directory : Directory) (output : Sink)
    (writer : Sink → Sink × Option WriteFault) : Delivery :=
  match name.getD [] with
  | [] =>
    let (output, fault) := writer output
    ⟨directory, output, false, false, fault.map .writing⟩
  | path =>
    match directory.writeTarget path with
    | .error f => ⟨directory, output, false, false, some (.opening f)⟩
    | .ok (.device device) =>
      let (sink, fault) := writer .ofBytes
      ⟨directory, output, true, true, ((closingFault? device sink).or fault).map .writing⟩
    | .ok (.file place) =>
      let (sink, fault) := writer .ofBytes
      ⟨directory.put place (Utf8.encodeChars sink.text), output, true, true,
        fault.map .writing⟩

end Destination

end RecordPrint
