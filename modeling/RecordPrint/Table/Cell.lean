import RecordPrint.Record.Shown
import RecordPrint.Number.Significant

/-!
# Cells

The text of a value in a table. Texts stand for themselves, integers are written in full, other numbers
with two places, timestamps in their long form; everything that has no cell form of its own is an empty
cell. A finite number may be formatted in a way of its own, and a zone may fail to answer.
-/

namespace RecordPrint

/-- The cell of a value that does not exist. -/
def invalidCell : Text := "<invalid Value>"

def Binary64.cell : Binary64 → Text
  | nan => "NaN"
  | infinite false => "+Inf"
  | infinite true => "-Inf"
  | finite x => x.twoPlaces

def Scalar.cell : Scalar → Text
  | null => []
  | bool true => "true"
  | bool false => "false"
  | int n => Numeral.whole n
  | float x => x.cell
  | text t => t

namespace Value

def cell (v : Value) : Except Fault Text :=
  match v.content?, v.moment? with
  | some s, _ => v.form?.getD (.ok s.cell)
  | none, some t => t.long
  | none, none =>
    match v with
    | missing => .ok invalidCell
    | _ => .ok []

theorem cell_of_content {v : Value} {s : Scalar} (h : v.content? = some s) :
    v.cell = v.form?.getD (.ok s.cell) := by
  unfold cell
  rw [h]

theorem cell_of_moment {v : Value} {t : Timestamp} (h : v.moment? = some t) : v.cell = t.long := by
  cases hcontent : v.content? with
  | none =>
    unfold cell
    rw [hcontent, h]
  | some s =>
    rw [moment?_of_content hcontent] at h
    cases h

end Value

end RecordPrint
