import Mathlib
import CircuitBench.Proofs.Dataset.Identifiers
import CircuitBench.Proofs.Results.Renaming
import CircuitBench.Proofs.Results.Derivation

/-!
# Normalizing renames and appends

Three columns are renamed (`Table.chartName`) and two are added at the end. The cells that were
there stay where they were, and each row gets what the name of its data set tells, as if the name
was taken apart for each row anew. `normalize_renamesAndAppends` has the columns, the rows and the
warnings of a normalized table.
-/

namespace CircuitBench

namespace Table

/-- The name of a column in charts: the first columns of sizes, durations and sources have names of
their own. -/
def chartName (t : Table) (durations : DurationName) (place : Nat) (name : String) : String :=
  if t.columnIndex? "size" = some place then "Number of patterns"
  else if t.columnIndex? "duration" = some place then
    match durations with
    | .runtime => "Runtime (s)"
    | .duration => "Duration (s)"
  else if t.columnIndex? "source" = some place then "Pattern matching algorithm"
  else name

/-- The name of a row's data set: what is written under the first column `dataset`, and nothing
where the row has no cell there. -/
def datasetName (t : Table) (row : List Cell) : String :=
  match (t.columnIndex? "dataset").bind (row[·]?) with
  | some cell => String.ofList cell.written
  | none => ""

/-- The names in charts are those that three renamings give. -/
lemma renamedAt_columnMapping (t : Table) (durations : DurationName) :
    t.renamedAt (columnMapping durations) = t.chartName durations := by
  funext place name
  rw [columnMapping, renamedAt_cons, renamedAt_cons, renamedAt_cons]
  cases durations <;> rfl

/-- The name of a row's data set is not touched by the renamings. -/
lemma writtenCell_renameAll (t : Table) (name : DurationName) (row : List Cell) :
    (renameAll t (columnMapping name)).writtenCell row datasetColumn
      = t.writtenCell row datasetColumn := by
  have hapart : datasetColumn ∉ (columnMapping name).map Prod.fst ∧
      datasetColumn ∉ (columnMapping name).map Prod.snd := by
    cases name <;> decide
  rw [writtenCell, cell?, columnIndex?_renameAll_of_notMem hapart]
  rfl

/-- Neither are the names of all rows. -/
lemma identifiers_renameAll (t : Table) (name : DurationName) :
    (renameAll t (columnMapping name)).identifiers = t.identifiers := by
  rw [identifiers, rows_renameAll]
  exact List.map_congr_left fun row _ => t.writtenCell_renameAll name row

end Table

/-- A table was renamed and extended: its columns are the old ones in their places, with the names
that charts give to three of them, and two more; each row is the old row with what the name of its
data set tells; and each name outside the grammar has one warning, in the order in which the names
occur first. -/
structure Normalized.RenamesAndAppends (n : Normalized) (t : Table) (options : SchemaOptions) :
    Prop where
  columns_eq : n.table.table.columns
    = t.columns.mapIdx (t.chartName options.durationName) ++ ["n_qubits", "dataset type"]
  rows_eq : n.table.table.rows = t.rows.map fun row =>
    row ++ [.text (options.grammar.extract (t.datasetName row)).qubits,
      .text (options.grammar.extract (t.datasetName row)).datasetType]
  durationName_eq : n.table.durationName = options.durationName
  mem_warnings : ∀ w, w ∈ n.warnings ↔ w.grammar = options.grammar ∧
    w.identifier ∈ t.rows.map t.datasetName ∧
      options.grammar.parse? w.identifier.toList = none
  ordered_warnings : (n.warnings.map GrammarWarning.identifier).Pairwise fun a b =>
    (t.rows.map t.datasetName).idxOf a < (t.rows.map t.datasetName).idxOf b

section Warnings

variable {grammar : DatasetGrammar} {identifiers : List String} {d : Derivation}

/-- The warnings of a derivation are those of its names. -/
lemma Derivation.Covers.mem_warnings (h : d.Covers grammar identifiers) (w : GrammarWarning) :
    w ∈ d.warnings ↔ w.grammar = grammar ∧ w.identifier ∈ identifiers ∧
      grammar.parse? w.identifier.toList = none := by
  rw [h.warnings, List.mem_filterMap]
  constructor
  · rintro ⟨identifier, hmem, hwarning⟩
    rw [DatasetGrammar.warning_extract, Option.ite_none_right_eq_some, Option.some_inj] at hwarning
    obtain ⟨hparse, rfl⟩ := hwarning
    exact ⟨rfl, (mem_distinct _ _).1 hmem, hparse⟩
  · rintro ⟨rfl, hmem, hparse⟩
    exact ⟨w.identifier, (mem_distinct _ _).2 hmem,
      by rw [DatasetGrammar.warning_extract, if_pos hparse]⟩

/-- They stand in the order in which their names occur first. -/
lemma Derivation.Covers.ordered_warnings (h : d.Covers grammar identifiers) :
    (d.warnings.map GrammarWarning.identifier).Pairwise fun a b =>
      identifiers.idxOf a < identifiers.idxOf b := by
  have hname : ∀ {identifier : String} {w : GrammarWarning},
      (grammar.extract identifier).warning = some w → w.identifier = identifier := by
    intro identifier w hwarning
    rw [DatasetGrammar.warning_extract, Option.ite_none_right_eq_some, Option.some_inj] at hwarning
    rw [← hwarning.2]
  rw [h.warnings, List.pairwise_map, List.pairwise_filterMap]
  refine (firstAppearances_distinct identifiers).ordered.imp fun hlt w hw w' hw' => ?_
  rwa [hname hw, hname hw']

/-- A derivation has a warning for each name outside the grammar. -/
lemma Derivation.Covers.length_warnings (h : d.Covers grammar identifiers) :
    d.warnings.length =
      (identifiers.toFinset.filter fun name => grammar.parse? name.toList = none).card := by
  have hwarning : ∀ name, (grammar.extract name).warning.isSome =
      decide (grammar.parse? name.toList = none) := by
    intro name
    rw [DatasetGrammar.warning_extract]
    split <;> simp_all
  have hnames : (identifiers.toFinset.filter fun name => grammar.parse? name.toList = none) =
      ((distinct identifiers).filter fun name =>
        decide (grammar.parse? name.toList = none)).toFinset := by
    ext name
    simp [mem_distinct]
  rw [hnames, List.toFinset_card_of_nodup ((nodup_distinct _).filter _), h.warnings,
    List.length_filterMap_eq_countP, List.countP_eq_length_filter]
  simp only [hwarning]

end Warnings

/-- The columns of a normalized table. -/
lemma columns_normalize (t : Table) (options : SchemaOptions) :
    (normalize t options).table.table.columns
      = (renameAll t (columnMapping options.durationName)).columns
        ++ [qubitsColumn, datasetTypeColumn] :=
  List.append_assoc _ _ _

/-- The rows of a normalized table. -/
lemma rows_normalize (t : Table) (options : SchemaOptions) :
    (normalize t options).table.table.rows = t.rows.map fun row =>
      row ++ [.text (options.grammar.extract (t.writtenCell row datasetColumn)).qubits,
        .text (options.grammar.extract (t.writtenCell row datasetColumn)).datasetType] := by
  have hderived := covers_derive options.grammar t.identifiers
  have hrows : (renameAll t (columnMapping options.durationName)).rows = t.rows.map id := by
    rw [rows_renameAll, List.map_id]
  rw [normalize]
  dsimp only [Table.pushColumn]
  rw [t.identifiers_renameAll, hrows, hderived.qubits, hderived.datasetTypes, Table.identifiers,
    List.map_map, List.map_map, appendCells_map, appendCells_map]
  exact List.map_congr_left fun row _ => List.append_assoc _ _ _

/-- Normalizing a table renames three columns and appends two, and goes through the rows as if each
name was taken apart anew. -/
theorem normalize_renamesAndAppends (t : Table) (options : SchemaOptions) :
    (normalize t options).RenamesAndAppends t options := by
  have hderived := covers_derive options.grammar t.identifiers
  have hids := t.identifiers_renameAll options.durationName
  constructor
  case columns_eq =>
    rw [columns_normalize, columns_renameAll (nodup_columnMapping _), t.renamedAt_columnMapping]
    rfl
  case rows_eq => exact rows_normalize t options
  case durationName_eq => rfl
  case mem_warnings =>
    intro w
    rw [normalize, hids]
    exact hderived.mem_warnings w
  case ordered_warnings =>
    rw [normalize, hids]
    exact hderived.ordered_warnings

end CircuitBench
