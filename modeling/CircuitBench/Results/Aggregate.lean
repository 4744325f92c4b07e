import CircuitBench.Results.Record
import CircuitBench.Results.Table
import CircuitBench.Results.Grouping

/-!
# Putting records together

All records make one table, `aggregate`. Its columns are the fields of the records in order of first
appearance, then the source and the data set. `Record.row` fills the row of a record field by field.
-/

namespace CircuitBench

/-- The names of all fields in order of first appearance. -/
def payloadColumns (records : List Record) : List String :=
  distinct (records.flatMap fun r => r.fields.map Prod.fst)

/-- A row with the value of a field put under the first column of its name, if there is one. -/
def placeField (columns : List String) (row : List Cell) (field : String × Cell) : List Cell :=
  match columns.findIdx? (· == field.1) with
  | some place => row.set place field.2
  | none => row

/-- The row of a record: its fields put one after the other into a row of missing cells, then its
source and its data set. -/
def Record.row (columns : List String) (r : Record) : List Cell :=
  r.fields.foldl (placeField columns) (List.replicate columns.length .missing) ++
    [.text r.source.label, .text r.dataset]

/-- The table of sets of records. Order is kept and no record is left out. -/
def aggregate (sets : List (List Record)) : Table :=
  let records := sets.flatten
  let columns := payloadColumns records
  (Table.empty (columns ++ [sourceColumn, datasetColumn])).pushRows
    (records.map (Record.row columns))

end CircuitBench
