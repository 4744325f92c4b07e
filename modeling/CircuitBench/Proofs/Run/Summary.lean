import CircuitBench.Proofs.Results.Grouping
import CircuitBench.Proofs.Results.Loading
import CircuitBench.Proofs.Results.Points
import CircuitBench.Proofs.Results.Shape
import CircuitBench.Run.Pipeline

/-!
# Summaries balance

A summary is put together from what was loaded, from the rows of the normalized table, and from the
warnings of normalizing. Every record that was loaded is one row, and the row has a cell under each
name that the summary looks up, so the numbers fit together, whatever files were found
(`RunSummary.Balances`). `balances_summary` says so of each run of the pipeline.
-/

namespace CircuitBench

/-- The files that were read, source by source. -/
def PipelineOutput.files (out : PipelineOutput) : List ResultFile :=
  out.loads.flatMap LoadOutcome.files

/-- The names of data sets outside the grammar, of all files that have a record. -/
def unmatchedNames (grammar : DatasetGrammar) (files : List ResultFile) : Finset String :=
  ((files.filter fun file => !file.records.isEmpty).map ResultFile.dataset).toFinset.filter
    fun name => grammar.parse? name.toList = none

/-- The numbers of a summary fit together: each loaded record is one row, each row is counted for
one algorithm, each name outside the grammar is counted once, and the numbers of qubits are listed
for the types that they are shown with. -/
structure RunSummary.Balances (s : RunSummary) (out : PipelineOutput) : Prop where
  sourceRows_eq : s.sources.map SourceSummary.rows = out.loads.map fun o => o.records.length
  totalRows_eq : s.totalRows = (s.sources.map SourceSummary.rows).sum
  tableRows_eq : s.totalRows = out.normalized.table.table.length
  algorithms : out.normalized.table.table.Counts "Pattern matching algorithm" s.rowsByAlgorithm
  algorithms_sum : (s.rowsByAlgorithm.map Prod.snd).sum = s.totalRows
  grammarWarnings_eq : s.grammarWarnings = (unmatchedNames out.schema.grammar out.files).card
  qubits : out.normalized.table.table.Groups "dataset type" "n_qubits" s.qubitsByType

/-! ### Columns with a cell in each row -/

section Columns

variable {sets : List (List Record)}

/-- A column of a normalized table has a cell in each row. -/
lemma fills_normalize {options : SchemaOptions} {name : String}
    (h : name ∈ (normalize (aggregate sets) options).table.table.columns) :
    (normalize (aggregate sets) options).table.table.Fills name := fun _ hrow =>
  (rectangular_normalize (rectangular_aggregate sets) options).exists_cell? hrow h

/-- The column of algorithms has a cell in each row: a field of that name, or the source. -/
lemma fills_normalize_algorithm
    (hsource : sourceColumn ∉ payloadColumns sets.flatten)
    (hdataset : datasetColumn ∉ payloadColumns sets.flatten) (options : SchemaOptions) :
    (normalize (aggregate sets) options).table.table.Fills algorithmColumn := by
  intro row hrow
  rw [rows_normalize_aggregate hdataset] at hrow
  obtain ⟨r, -, rfl⟩ := List.mem_map.1 hrow
  rw [cell?_normalize_algorithm hsource]
  split
  · exact ⟨_, rfl⟩
  · exact ⟨_, rfl⟩

/-- The normalized table has as many rows as there are records. -/
lemma length_normalize_aggregate (options : SchemaOptions) :
    (normalize (aggregate sets) options).table.table.length = sets.flatten.length := by
  rw [Table.length, rows_normalize, List.length_map, rows_aggregate, List.length_map]

end Columns

/-! ### Names outside the grammar -/

/-- The normalized table of records has a warning for each name outside the grammar. -/
lemma length_warnings_normalize {sets : List (List Record)}
    (hdataset : datasetColumn ∉ payloadColumns sets.flatten) (options : SchemaOptions) :
    (normalize (aggregate sets) options).warnings.length =
      ((sets.flatten.map Record.dataset).toFinset.filter
        fun name => options.grammar.parse? name.toList = none).card := by
  have hidentifiers : (aggregate sets).identifiers = sets.flatten.map Record.dataset := by
    rw [Table.identifiers, rows_aggregate, List.map_map]
    exact List.map_congr_left fun r _ => writtenCell_aggregate_dataset hdataset r
  rw [← hidentifiers, ← (aggregate sets).identifiers_renameAll options.durationName]
  exact (covers_derive _ _).length_warnings

/-! ### Records of loaded files -/

namespace PipelineOutput

variable {t : Tree} {cwd : Location} {resultsFolder : String} {options : PipelineOptions}

/-- The records of the files that were read are tagged. -/
lemma isTagged_of_mem_files {file : ResultFile}
    (h : file ∈ (collect t cwd resultsFolder options).files) :
    ∀ r ∈ file.records, r.IsTagged file.dataset := by
  obtain ⟨o, ho, hfile⟩ := List.mem_flatMap.1 h
  obtain ⟨source, -, rfl⟩ := List.mem_map.1 ho
  obtain ⟨path, hreading⟩ := LoadOutcome.mem_files.1 hfile
  exact (isLoaded_of_readResultFile (readResultFile_of_mem_readings hreading)).isTagged

/-- The records of a run are those of its files. -/
lemma flatten_records (out : PipelineOutput) :
    (out.loads.map LoadOutcome.records).flatten = out.files.flatMap ResultFile.records := by
  rw [files, ← List.flatMap_def, List.flatMap_assoc]
  rfl

/-- The names of data sets of the records are those of the files that have a record. -/
lemma dataset_records (out : PipelineOutput)
    (h : ∀ file ∈ out.files, ∀ r ∈ file.records, r.IsTagged file.dataset) :
    (((out.loads.map LoadOutcome.records).flatten).map Record.dataset).toFinset =
      ((out.files.filter fun file => !file.records.isEmpty).map ResultFile.dataset).toFinset := by
  ext name
  rw [flatten_records, List.mem_toFinset, List.mem_toFinset, List.mem_map, List.mem_map]
  constructor
  · rintro ⟨r, hr, rfl⟩
    obtain ⟨file, hfile, hr⟩ := List.mem_flatMap.1 hr
    refine ⟨file, List.mem_filter.2 ⟨hfile, ?_⟩, ((h file hfile r hr).dataset_eq).symm⟩
    simpa using List.ne_nil_of_mem hr
  · rintro ⟨file, hfile, rfl⟩
    obtain ⟨hfile, hrecords⟩ := List.mem_filter.1 hfile
    obtain ⟨r, hr⟩ := List.exists_mem_of_ne_nil file.records (by simpa using hrecords)
    exact ⟨r, List.mem_flatMap.2 ⟨file, hfile, hr⟩, (h file hfile r hr).dataset_eq⟩

/-- The summary of tagged records balances. -/
lemma balances_of_isTagged {out : PipelineOutput}
    (hnormalized : out.normalized = normalize (aggregate (out.loads.map LoadOutcome.records))
      out.schema)
    (htagged : ∀ file ∈ out.files, ∀ r ∈ file.records, r.IsTagged file.dataset) :
    out.summary.Balances out := by
  have hreserved : ∀ r ∈ (out.loads.map LoadOutcome.records).flatten, ∀ f ∈ r.fields,
      f.1 ≠ sourceColumn ∧ f.1 ≠ datasetColumn := by
    intro r hr
    rw [flatten_records] at hr
    obtain ⟨file, hfile, hr⟩ := List.mem_flatMap.1 hr
    exact (htagged file hfile r hr).fields_ne
  obtain ⟨hsource, hdataset⟩ := notMem_payloadColumns hreserved
  have hrows : out.summary.sources.map SourceSummary.rows =
      out.loads.map fun o => o.records.length := by
    rw [summary, List.map_map]
    exact List.map_congr_left fun o _ => o.recordCount_eq
  have hlength : out.normalized.table.table.length =
      (out.loads.map fun o => o.records.length).sum := by
    rw [hnormalized, length_normalize_aggregate, List.length_flatten, List.map_map]
    rfl
  have halgorithms :
      out.normalized.table.table.Counts algorithmColumn out.summary.rowsByAlgorithm :=
    Table.counts_countBy (hnormalized ▸ fills_normalize_algorithm hsource hdataset out.schema)
  have hderived : ∀ name ∈ [qubitsColumn, datasetTypeColumn],
      out.normalized.table.table.Fills name := by
    intro name hname
    rw [hnormalized]
    refine fills_normalize ?_
    rw [columns_normalize]
    exact List.mem_append_right _ hname
  have hqubits : out.normalized.table.table.Groups datasetTypeColumn qubitsColumn
      out.summary.qubitsByType :=
    Table.groups_distinctBy (hderived _ (by simp)) (hderived _ (by simp))
  constructor
  case sourceRows_eq => exact hrows
  case totalRows_eq =>
    rw [hrows]
    exact hlength
  case tableRows_eq => rfl
  case algorithms => exact halgorithms
  case algorithms_sum => exact halgorithms.sum_eq
  case grammarWarnings_eq =>
    change out.normalized.warnings.length = _
    rw [hnormalized, length_warnings_normalize hdataset, dataset_records out htagged]
    rfl
  case qubits => exact hqubits

end PipelineOutput

/-- The summary of a run balances, whatever folder the results are looked for in, whatever sources
are asked for and however names are read. -/
theorem balances_summary (t : Tree) (cwd : Location) (resultsFolder : String)
    (options : PipelineOptions) :
    (collect t cwd resultsFolder options).summary.Balances
      (collect t cwd resultsFolder options) :=
  PipelineOutput.balances_of_isTagged rfl fun _ => PipelineOutput.isTagged_of_mem_files

end CircuitBench
