import RecordPrint.Automation.Checks
import RecordPrint.Main
import RecordPrint.Proofs.Automation.Versions
import RecordPrint.Proofs.Command.Columns
import RecordPrint.Proofs.Command.Files
import RecordPrint.Proofs.Command.Starting
import RecordPrint.Proofs.Document.Acceptance
import RecordPrint.Proofs.Document.Deliveries
import RecordPrint.Proofs.Document.Labels
import RecordPrint.Proofs.Document.Runs
import RecordPrint.Proofs.Document.Wrapped
import RecordPrint.Proofs.Record.Cycles
import RecordPrint.Proofs.Record.Mappings
import RecordPrint.Proofs.Record.NormalForm
import RecordPrint.Proofs.Record.Supplied
import RecordPrint.Proofs.Schema.Resolution
import RecordPrint.Proofs.Table.Cells
import RecordPrint.Proofs.Table.Fixed
import RecordPrint.Proofs.Table.LineBreaks
import RecordPrint.Schema.Enumeration
import RecordPrint.Proofs.Number.Whole
import RecordPrint.Proofs.Number.Hundredths
import RecordPrint.Proofs.Table.Numbers
import RecordPrint.Proofs.Table.Timestamps
import RecordPrint.Proofs.Json.Relined
import RecordPrint.Proofs.Document.Selectors
import RecordPrint.Proofs.Schema.Inheritance
import RecordPrint.Proofs.Schema.Markers
import RecordPrint.Proofs.Table.Chronology
