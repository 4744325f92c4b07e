import CircuitBench.Results.Record
import CircuitBench.Results.Table
import CircuitBench.Results.Grouping
import CircuitBench.Dataset.Grammar

/-!
# Normalized results

The table of all records is made ready for charts: `normalize` gives three columns the names shown
there and adds two columns for what the name of the data set tells. Each name is taken apart once
(`Derivation.addRow`), with a warning where it is outside the grammar. `NormalizedTable.points` are
the measurements that can be drawn.
-/

namespace CircuitBench

/-- The column with the number of patterns. -/
def patternsColumn : String := "Number of patterns"

/-- The column with the algorithm. -/
def algorithmColumn : String := "Pattern matching algorithm"

/-- The column with the number of qubits. -/
def qubitsColumn : String := "n_qubits"

/-- The column with the type of the data set. -/
def datasetTypeColumn : String := "dataset type"

/-- The name of the duration column in charts. -/
inductive DurationName where
  | runtime
  | duration
deriving DecidableEq, Repr

/-- The label of the duration column. -/
def DurationName.label : DurationName → String
  | .runtime => "Runtime (s)"
  | .duration => "Duration (s)"

/-- How columns are named and names of data sets are read. -/
structure SchemaOptions where
  grammar : DatasetGrammar
  durationName : DurationName
deriving DecidableEq, Repr

/-- The options of the first charts. -/
def SchemaOptions.legacy : SchemaOptions := ⟨.legacyVoqc, .duration⟩

/-- The options unless others are chosen. -/
def SchemaOptions.standard : SchemaOptions := ⟨.qubitsGatesType, .runtime⟩

/-- The old and new names of the columns that are renamed, in this order. -/
def columnMapping (name : DurationName) : List (String × String) := [
  (sizeColumn, patternsColumn),
  (durationColumn, name.label),
  (sourceColumn, algorithmColumn)]

/-- Something worth noting about a renaming. -/
inductive RenameEvent where
  /-- The new name is in use already. -/
  | alreadyPresent (new old : String)
  /-- There is no column of the old name. -/
  | notPresent (old : String)
deriving DecidableEq, Repr

/-- The wording of an event. -/
def RenameEvent.message : RenameEvent → String
  | .alreadyPresent new old => s!"Column '{new}' already present; '{old}' renamed alongside it"
  | .notPresent old => s!"Column '{old}' not present, nothing to rename"

/-- A table with columns renamed one after the other. -/
def renameAll (t : Table) (mapping : List (String × String)) : Table :=
  mapping.foldl (fun t (old, new) => t.rename old new) t

/-- What is worth noting while columns are renamed one after the other. -/
def renameEvents (t : Table) : List (String × String) → List RenameEvent
  | [] => []
  | (old, new) :: rest =>
    let here :=
      match t.columnIndex? old, t.columnIndex? new with
      | some _, some _ => [.alreadyPresent new old]
      | some _, none => []
      | none, _ => [.notPresent old]
    here ++ renameEvents (t.rename old new) rest

/-- A table under the names shown in charts. -/
structure NormalizedTable where
  table : Table
  durationName : DurationName
deriving BEq, Repr

/-- A normalized table and a warning for each distinct name outside the grammar. -/
structure Normalized where
  table : NormalizedTable
  warnings : List GrammarWarning
deriving BEq, Repr

/-- The written form of a cell under a column; nothing if there is no such column. -/
def Table.writtenCell (t : Table) (row : List Cell) (name : String) : String :=
  match t.cell? row name with
  | some c => String.ofList c.written
  | none => ""

/-- The names of the data sets, row by row. -/
def Table.identifiers (t : Table) : List String :=
  t.rows.map (t.writtenCell · datasetColumn)

/-- What the names of data sets tell, row by row. -/
structure Derivation where
  /-- The qubits and the type for each name that was met. -/
  known : List (String × String × String)
  warnings : List GrammarWarning
  qubits : List Cell
  datasetTypes : List Cell

/-- Before the first row. -/
def Derivation.start : Derivation := ⟨[], [], [], []⟩

/-- One more row. Names repeat from row to row, so only a name that was not met before is taken
apart. -/
def Derivation.addRow (grammar : DatasetGrammar) (d : Derivation) (identifier : String) :
    Derivation :=
  match d.known.lookup identifier with
  | some (qubits, datasetType) =>
    { d with
      qubits := d.qubits ++ [.text qubits]
      datasetTypes := d.datasetTypes ++ [.text datasetType] }
  | none =>
    let e := grammar.extract identifier
    { known := (identifier, e.qubits, e.datasetType) :: d.known
      warnings := d.warnings ++ e.warning.toList
      qubits := d.qubits ++ [.text e.qubits]
      datasetTypes := d.datasetTypes ++ [.text e.datasetType] }

/-- What the given names tell, one for each row. -/
def derive (grammar : DatasetGrammar) (identifiers : List String) : Derivation :=
  identifiers.foldl (Derivation.addRow grammar) .start

/-- The table with the columns renamed and what the names of the data sets tell added. -/
def normalize (t : Table) (options : SchemaOptions) : Normalized :=
  let renamed := renameAll t (columnMapping options.durationName)
  let derived := derive options.grammar renamed.identifiers
  let extended := (renamed.pushColumn qubitsColumn derived.qubits).pushColumn datasetTypeColumn
    derived.datasetTypes
  { table := ⟨extended, options.durationName⟩
    warnings := derived.warnings }

/-- A measurement that can be drawn. -/
structure BenchPoint where
  patterns : Nat
  runtime : Float
  algorithm : Source
  dataset : String
  qubits : String
  datasetType : String
deriving BEq, Repr

namespace NormalizedTable

/-- The label of the duration column. -/
def runtimeLabel (t : NormalizedTable) : String := t.durationName.label

/-- The runtime of a row, if it is finite and not negative. -/
def runtime? (t : NormalizedTable) (row : List Cell) : Option Float :=
  match (t.table.cell? row t.runtimeLabel).bind Cell.toFloat? with
  | some x => if Number.isFinite x && (0 : Float) ≤ x then some x else none
  | none => none

/-- The algorithm of a row. -/
def algorithm? (t : NormalizedTable) (row : List Cell) : Option Source :=
  ((t.table.cell? row algorithmColumn).bind Cell.toText?).bind Source.read?

/-- The measurement of a row, if it has a count, a runtime and an algorithm. -/
def point? (t : NormalizedTable) (row : List Cell) : Option BenchPoint := do
  let patterns ← (t.table.cell? row patternsColumn).bind Cell.toCount?
  let runtime ← t.runtime? row
  let algorithm ← t.algorithm? row
  return {
    patterns, runtime, algorithm
    dataset := t.table.writtenCell row datasetColumn
    qubits := t.table.writtenCell row qubitsColumn
    datasetType := t.table.writtenCell row datasetTypeColumn }

/-- The measurements that can be drawn, in row order. -/
def points (t : NormalizedTable) : List BenchPoint :=
  t.table.rows.filterMap t.point?

/-- The places of the rows that have no measurement to draw. -/
def unplottableRows (t : NormalizedTable) : List Nat :=
  t.table.rows.zipIdx.filterMap fun (row, i) => if (t.point? row).isSome then none else some i

end NormalizedTable

end CircuitBench
