import CircuitBench.Results.Loading
import CircuitBench.Results.Aggregate
import CircuitBench.Results.Normalize
import CircuitBench.Report.Summary

/-!
# The pipeline

`collect` loads all sources, puts their records into one table, and normalizes the table.
`PipelineOutput.summary` has the counts of the run.
-/

namespace CircuitBench

/-- What a run is asked to load and how names are read. -/
structure PipelineOptions where
  sources : List Source
  extensions : List String
  schema : SchemaOptions

/-- The loaded sources, the table of their records, and its normalized form. -/
structure PipelineOutput where
  loads : List LoadOutcome
  aggregated : Table
  normalized : Normalized
  schema : SchemaOptions

/-- Loads, puts together and normalizes. -/
def collect (t : Tree) (cwd : Location) (resultsFolder : String) (options : PipelineOptions) :
    PipelineOutput :=
  let loads := options.sources.map (load t cwd options.extensions resultsFolder)
  let aggregated := aggregate (loads.map LoadOutcome.records)
  { loads, aggregated, normalized := normalize aggregated options.schema, schema := options.schema }

/-- The counts of one source. -/
def LoadOutcome.summary (o : LoadOutcome) : SourceSummary :=
  ⟨o.source.label, o.files.length, o.skipped.length, o.recordCount⟩

namespace PipelineOutput

/-- The counts of a run. -/
def summary (o : PipelineOutput) : RunSummary :=
  let table := o.normalized.table.table
  { sources := o.loads.map LoadOutcome.summary
    totalRows := table.length
    rowsByAlgorithm := table.countBy algorithmColumn
    qubitsByType := table.distinctBy datasetTypeColumn qubitsColumn
    grammarWarnings := o.normalized.warnings.length }

/-- The log entry of a loaded source. -/
def countsLog (o : LoadOutcome) : LogEntry :=
  ⟨.info, s!"{o.source.label}: {o.files.length} files, {o.recordCount} records"⟩

/-- The log entry of a renaming. -/
def renameLog (e : RenameEvent) : LogEntry :=
  match e with
  | .alreadyPresent _ _ => ⟨.warn, e.message⟩
  | .notPresent _ => ⟨.debug, e.message⟩

/-- The log of a run of the pipeline. -/
def log (o : PipelineOutput) : List LogEntry :=
  o.loads.flatMap LoadOutcome.log ++ o.loads.map countsLog ++
    (renameEvents o.aggregated (columnMapping o.schema.durationName)).map renameLog ++
    o.normalized.warnings.map fun w => ⟨.warn, w.message⟩

end PipelineOutput

end CircuitBench
