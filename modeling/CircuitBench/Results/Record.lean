import CircuitBench.Results.Source
import CircuitBench.Results.Cell

/-!
# Records

A `Record` is one row of measurements as it was read, with its source and the data set it belongs
to. A look-up takes the first field of a name. Some columns have a meaning of their own, and their
names stand here.
-/

namespace CircuitBench

/-- The column with the size of the set of patterns. -/
def sizeColumn : String := "size"

/-- The column with the measured duration in seconds. -/
def durationColumn : String := "duration"

/-- The column that names the source of a record. -/
def sourceColumn : String := "source"

/-- The column that names the data set of a record. -/
def datasetColumn : String := "dataset"

/-- One row of measurements; the fields keep their order and names may repeat. -/
structure Record where
  source : Source
  dataset : String
  fields : List (String × Cell)
deriving BEq, Repr

/-- The first field with a name. -/
def Record.get? (r : Record) (column : String) : Option Cell :=
  r.fields.lookup column

/-- The last field with a name. -/
def Record.last? (r : Record) (column : String) : Option Cell :=
  r.fields.reverse.lookup column

/-- The records read from one file. -/
structure ResultFile where
  source : Source
  dataset : String
  path : String
  records : List Record
deriving BEq, Repr

end CircuitBench
