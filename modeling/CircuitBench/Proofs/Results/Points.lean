import Mathlib
import CircuitBench.Proofs.Results.Normalization

/-!
# Points and records

The points of a chart are read from the normalized table by the names of its columns, and each of
them belongs to one record. Its columns may have been renamed or added, and a payload column may
have had their names before; the first column of a name is the one that is read. Here each look-up
is traced back through the renamings to the fields, the source and the data set of the record
(`Record.point?`).

Fields of one name in one record are left open: the first and the last of them are told apart, and
the measurement of a record is stated where they agree (`Record.ChartFieldsAgree`). Then the points
are the measurements of the records, in their order (`points_normalize_aggregate`). Each record
counts by itself where no field has a name that charts give (`points_eq_ownPoints`), and otherwise
it may not (`not_forall_points_eq_ownPoints`).
-/

namespace CircuitBench

deriving instance DecidableEq for Cell

deriving instance DecidableEq for BenchPoint

/-! ### What a record tells a chart -/

/-- The measurement with a count, a runtime and an algorithm, if all three can be read. -/
def measurement? (count runtime : Option Cell) (algorithm : Option Source)
    (dataset qubits datasetType : String) : Option BenchPoint := do
  let patterns ← count.bind Cell.toCount?
  let runtime ← (runtime.bind Cell.toFloat?).filter fun x =>
    Number.isFinite x && decide ((0 : Float) ≤ x)
  let algorithm ← algorithm
  return { patterns, runtime, algorithm, dataset, qubits, datasetType }

/-- The measurement of a record by itself: the number of patterns is its size, the runtime its
duration, and its source and data set tell the rest. -/
def Record.ownPoint? (options : SchemaOptions) (r : Record) : Option BenchPoint :=
  measurement? (r.get? sizeColumn) (r.get? durationColumn) (some r.source) r.dataset
    (options.grammar.extract r.dataset).qubits (options.grammar.extract r.dataset).datasetType

/-- The names of fields that are read for charts. -/
def chartNames (name : DurationName) : List String :=
  [sizeColumn, patternsColumn, durationColumn, name.label, algorithmColumn, qubitsColumn,
    datasetTypeColumn]

/-- The first and the last field of each name that is read for charts are the same; so it is when no
such name repeats. -/
def Record.ChartFieldsAgree (name : DurationName) (r : Record) : Prop :=
  ∀ n ∈ chartNames name, r.last? n = r.get? n

instance (name : DurationName) (r : Record) : Decidable (r.ChartFieldsAgree name) :=
  inferInstanceAs (Decidable (∀ n ∈ chartNames name, r.last? n = r.get? n))

/-- The value of a record under the first payload column that has one of the given names. -/
def firstField? (columns names : List String) (read : String → Option Cell) : Option Cell :=
  (columns.find? names.contains).bind read

/-- The text of a record under a payload column, or what its data set tells if there is no such
column. -/
def fieldOr (columns : List String) (read : String → Option Cell) (name derived : String) :
    String :=
  if name ∈ columns then
    String.ofList ((read name).getD .missing).written
  else derived

/-- The measurement of a record among records with the given payload columns, whose fields are read
in a given way. Of the payload columns of an old and a new name the first one is read; the columns
of algorithms, numbers of qubits and types stand behind all payload columns. -/
def Record.point? (columns : List String) (options : SchemaOptions) (read : String → Option Cell)
    (r : Record) : Option BenchPoint :=
  let derived := options.grammar.extract r.dataset
  measurement?
    (firstField? columns [sizeColumn, patternsColumn] read)
    (firstField? columns [durationColumn, options.durationName.label] read)
    (if algorithmColumn ∈ columns then ((read algorithmColumn).bind Cell.toText?).bind Source.read?
      else some r.source)
    r.dataset
    (fieldOr columns read qubitsColumn derived.qubits)
    (fieldOr columns read datasetTypeColumn derived.datasetType)

/-! ### The normalized table -/

/-- What the name of its data set tells of a record, under the names of the added columns. -/
def Record.derivedCells (options : SchemaOptions) (r : Record) : List (String × Cell) :=
  [(qubitsColumn, .text (options.grammar.extract r.dataset).qubits),
    (datasetTypeColumn, .text (options.grammar.extract r.dataset).datasetType)]

/-- The row of a record in the normalized table. -/
def Record.normalizedRow (columns : List String) (options : SchemaOptions) (r : Record) :
    List Cell :=
  r.row columns ++ (r.derivedCells options).map Prod.snd

section Normalized

variable {sets : List (List Record)}

/-- The name of a data set is read back from the table of all records. -/
lemma writtenCell_aggregate_dataset (hdataset : datasetColumn ∉ payloadColumns sets.flatten)
    (r : Record) :
    (aggregate sets).writtenCell (r.row (payloadColumns sets.flatten)) datasetColumn
      = r.dataset := by
  have hcell : (aggregate sets).cell? (r.row (payloadColumns sets.flatten)) datasetColumn
      = some (.text r.dataset) := by
    rw [Table.cell?_eq_firstOf?, firstOf?_aggregate,
      find?_contains_eq_ite _ _ datasetColumn fun c _ => List.mem_singleton, if_neg hdataset]
    rfl
  rw [Table.writtenCell, hcell]
  exact String.ofList_toList

/-- The normalized table has one row for each record, in their order. -/
lemma rows_normalize_aggregate (hdataset : datasetColumn ∉ payloadColumns sets.flatten)
    (options : SchemaOptions) :
    (normalize (aggregate sets) options).table.table.rows
      = sets.flatten.map (Record.normalizedRow (payloadColumns sets.flatten) options) := by
  rw [rows_normalize, rows_aggregate, List.map_map]
  refine List.map_congr_left fun r _ => ?_
  rw [Function.comp_apply, writtenCell_aggregate_dataset hdataset]
  rfl

/-- A look-up in the normalized table finds what it found in the renamed one, else what the name of
the data set tells. -/
lemma cell?_normalize (options : SchemaOptions) (r : Record) (name : String) :
    (normalize (aggregate sets) options).table.table.cell?
        (r.normalizedRow (payloadColumns sets.flatten) options) name
      = (firstOf? [name]
            ((renameAll (aggregate sets) (columnMapping options.durationName)).columns.zip
              (r.row (payloadColumns sets.flatten)))).or
          (firstOf? [name] (r.derivedCells options)) := by
  have hlen : (r.row (payloadColumns sets.flatten)).length
      = (renameAll (aggregate sets) (columnMapping options.durationName)).columns.length := by
    rw [length_columns_renameAll, Record.length_row]
    change _ = (payloadColumns sets.flatten ++ [sourceColumn, datasetColumn]).length
    rw [List.length_append]
    rfl
  have hcolumns : (normalize (aggregate sets) options).table.table.columns
      = (renameAll (aggregate sets) (columnMapping options.durationName)).columns
        ++ (r.derivedCells options).map Prod.fst :=
    columns_normalize _ _
  rw [Table.cell?_eq_firstOf?, hcolumns, Record.normalizedRow, firstOf?_zip_append _ _ _ _ _ hlen]
  rfl

/-- A renamed column is read under the first payload column of its old or new name. -/
lemma cell?_normalize_of_mem {options : SchemaOptions} {old new : String}
    (hmem : (old, new) ∈ columnMapping options.durationName) (hold : old ≠ sourceColumn)
    (r : Record) :
    (normalize (aggregate sets) options).table.table.cell?
        (r.normalizedRow (payloadColumns sets.flatten) options) new
      = ((payloadColumns sets.flatten).find? [old, new].contains).map fun c =>
          (r.last? c).getD .missing := by
  have hother : ∀ p ∈ columnMapping options.durationName, p.1 ≠ sourceColumn →
      sourceColumn ∉ [p.1, p.2] ∧ datasetColumn ∉ [p.1, p.2] ∧ qubitsColumn ∉ [p.2] ∧
        datasetTypeColumn ∉ [p.2] := by
    cases options.durationName <;> decide
  obtain ⟨hsource, hdataset, hqubits, htype⟩ := hother _ hmem hold
  rw [cell?_normalize, firstOf?_renameAll_of_mem (nodup_columnMapping _) hmem, firstOf?_aggregate,
    Record.derivedCells, firstOf?_cons, firstOf?_cons, firstOf?_cons, firstOf?_cons,
    if_neg hsource, if_neg hdataset, if_neg hqubits, if_neg htype]
  simp only [firstOf?_nil, Option.or_none]

/-- The column of algorithms is a payload column of that name, else the column of sources. -/
lemma cell?_normalize_algorithm (hsource : sourceColumn ∉ payloadColumns sets.flatten)
    (options : SchemaOptions) (r : Record) :
    (normalize (aggregate sets) options).table.table.cell?
        (r.normalizedRow (payloadColumns sets.flatten) options) algorithmColumn
      = if algorithmColumn ∈ payloadColumns sets.flatten then
          some ((r.last? algorithmColumn).getD .missing)
        else some (.text r.source.label) := by
  have hmem : (sourceColumn, algorithmColumn) ∈ columnMapping options.durationName := by
    simp [columnMapping]
  have hfind := find?_contains_eq_ite [sourceColumn, algorithmColumn]
    (payloadColumns sets.flatten) algorithmColumn fun c hc => by
      have hne : c ≠ sourceColumn := fun h => hsource (h ▸ hc)
      simp [hne]
  rw [cell?_normalize, firstOf?_renameAll_of_mem (nodup_columnMapping _) hmem, firstOf?_aggregate,
    hfind]
  split <;> rfl

/-- A column that is not renamed is a payload column of its name, else one of those that follow. -/
lemma cell?_normalize_of_notMem {options : SchemaOptions} {name : String}
    (hmem : name ∉ mappedNames (columnMapping options.durationName)) (r : Record) :
    (normalize (aggregate sets) options).table.table.cell?
        (r.normalizedRow (payloadColumns sets.flatten) options) name
      = (if name ∈ payloadColumns sets.flatten then some ((r.last? name).getD .missing)
          else none).or
        (firstOf? [name] ((datasetColumn, .text r.dataset) :: r.derivedCells options)) := by
  have hnames : ∀ n ∈ [name], n ∉ mappedNames (columnMapping options.durationName) :=
    fun n hn => List.mem_singleton.1 hn ▸ hmem
  have hsource : sourceColumn ∉ [name] := by
    intro hn
    refine hmem (List.mem_singleton.1 hn ▸ ?_)
    cases options.durationName <;> decide
  rw [cell?_normalize, firstOf?_renameAll_of_notMem hnames, firstOf?_aggregate,
    find?_contains_eq_ite _ _ name fun c _ => List.mem_singleton, firstOf?_cons, if_neg hsource,
    Option.or_assoc, ← firstOf?_append, List.singleton_append]
  congr 1
  split <;> rfl

/-- A text that is added to each row is read back, unless a payload column has its name. -/
lemma writtenCell_normalize {options : SchemaOptions} {name derived : String} {r : Record}
    (hmem : name ∉ mappedNames (columnMapping options.durationName))
    (hadded : firstOf? [name] ((datasetColumn, .text r.dataset) :: r.derivedCells options)
      = some (.text derived)) :
    (normalize (aggregate sets) options).table.table.writtenCell
        (r.normalizedRow (payloadColumns sets.flatten) options) name
      = fieldOr (payloadColumns sets.flatten) r.last? name derived := by
  rw [Table.writtenCell, cell?_normalize_of_notMem hmem, hadded, fieldOr]
  by_cases hname : name ∈ payloadColumns sets.flatten
  · rw [if_pos hname, if_pos hname]
    rfl
  · rw [if_neg hname, if_neg hname]
    exact String.ofList_toList

end Normalized

/-! ### The points of a chart -/

/-- The measurement of a row is read from six of its cells. -/
lemma NormalizedTable.point?_eq (t : NormalizedTable) (row : List Cell) :
    t.point? row = measurement? (t.table.cell? row patternsColumn)
      (t.table.cell? row t.durationName.label) (t.algorithm? row)
      (t.table.writtenCell row datasetColumn) (t.table.writtenCell row qubitsColumn)
      (t.table.writtenCell row datasetTypeColumn) := by
  have hruntime : t.runtime? row = ((t.table.cell? row t.durationName.label).bind
      Cell.toFloat?).filter fun x => Number.isFinite x && decide ((0 : Float) ≤ x) := by
    rw [runtime?, runtimeLabel]
    split
    next x h => simp [h, Option.filter]
    next h => simp [h]
  rw [point?, hruntime]
  rfl

/-- The label of a source names it. -/
lemma Source.read?_label (s : Source) : Source.read? s.label = some s := by
  cases s <;> decide

/-- A missing cell counts as no cell for a view that makes nothing of it. -/
lemma bind_getD_missing {α : Type} (view : Cell → Option α) (hview : view .missing = none)
    (column : Option String) (read : String → Option Cell) :
    (column.map fun c => (read c).getD .missing).bind view = (column.bind read).bind view := by
  cases column with
  | none => rfl
  | some c =>
    change view ((read c).getD .missing) = (read c).bind view
    cases read c with
    | none => exact hview
    | some v => rfl

section Points

variable {sets : List (List Record)}

/-- The algorithm of a record is its source, unless a payload column has the name of that column. -/
lemma algorithm?_normalize (hsource : sourceColumn ∉ payloadColumns sets.flatten)
    (options : SchemaOptions) (r : Record) :
    (normalize (aggregate sets) options).table.algorithm?
        (r.normalizedRow (payloadColumns sets.flatten) options)
      = if algorithmColumn ∈ payloadColumns sets.flatten then
          ((r.last? algorithmColumn).bind Cell.toText?).bind Source.read?
        else some r.source := by
  rw [NormalizedTable.algorithm?, cell?_normalize_algorithm hsource]
  by_cases hmem : algorithmColumn ∈ payloadColumns sets.flatten
  · rw [if_pos hmem, if_pos hmem]
    exact congrArg (Option.bind · Source.read?)
      (bind_getD_missing Cell.toText? rfl (some algorithmColumn) r.last?)
  · rw [if_neg hmem, if_neg hmem]
    exact r.source.read?_label

/-- The row of a record in the normalized table has the measurement of the record, where the last
field of a name counts. -/
lemma point?_normalize (hsource : sourceColumn ∉ payloadColumns sets.flatten)
    (hdataset : datasetColumn ∉ payloadColumns sets.flatten) (options : SchemaOptions)
    (r : Record) :
    (normalize (aggregate sets) options).table.point?
        (r.normalizedRow (payloadColumns sets.flatten) options)
      = r.point? (payloadColumns sets.flatten) options r.last? := by
  have hpatterns : (sizeColumn, patternsColumn) ∈ columnMapping options.durationName := by
    simp [columnMapping]
  have hruntime : (durationColumn, options.durationName.label)
      ∈ columnMapping options.durationName := by
    simp [columnMapping]
  have hwritten : (normalize (aggregate sets) options).table.table.writtenCell
      (r.normalizedRow (payloadColumns sets.flatten) options) datasetColumn = r.dataset := by
    rw [writtenCell_normalize (by cases options.durationName <;> decide) rfl, fieldOr,
      if_neg hdataset]
  rw [NormalizedTable.point?_eq, hwritten, algorithm?_normalize hsource]
  change measurement? (Table.cell? _ _ patternsColumn) (Table.cell? _ _ options.durationName.label)
    _ _ _ _ = _
  rw [cell?_normalize_of_mem hpatterns (by decide), cell?_normalize_of_mem hruntime (by decide),
    writtenCell_normalize (by cases options.durationName <;> decide) rfl,
    writtenCell_normalize (by cases options.durationName <;> decide) rfl]
  rw [measurement?, bind_getD_missing Cell.toCount? rfl,
    bind_getD_missing Cell.toFloat? rfl]
  rfl

/-- The points are the measurements of the records in their order, where the last field of a name
counts. -/
lemma points_eq_filterMap (hsource : sourceColumn ∉ payloadColumns sets.flatten)
    (hdataset : datasetColumn ∉ payloadColumns sets.flatten) (options : SchemaOptions) :
    (normalize (aggregate sets) options).table.points
      = sets.flatten.filterMap fun r => r.point? (payloadColumns sets.flatten) options r.last? := by
  rw [NormalizedTable.points, rows_normalize_aggregate hdataset, List.filterMap_map]
  exact List.filterMap_congr fun r _ => point?_normalize hsource hdataset options r

/-- A field is read under names that are read for charts. -/
lemma firstField?_congr {columns names : List String} {read read' : String → Option Cell}
    (h : ∀ n ∈ names, read n = read' n) :
    firstField? columns names read = firstField? columns names read' := by
  rw [firstField?, firstField?]
  cases hfind : columns.find? names.contains with
  | none => rfl
  | some c => exact h c (by simpa using List.find?_some hfind)

/-- The measurement of a record depends on the fields that are read for charts. -/
lemma Record.point?_congr {options : SchemaOptions} {read read' : String → Option Cell}
    (h : ∀ n ∈ chartNames options.durationName, read n = read' n) (columns : List String)
    (r : Record) : r.point? columns options read = r.point? columns options read' := by
  have hpatterns : firstField? columns [sizeColumn, patternsColumn] read
      = firstField? columns [sizeColumn, patternsColumn] read' :=
    firstField?_congr fun n hn => h n (List.mem_append_left _ hn)
  have hruntime : firstField? columns [durationColumn, options.durationName.label] read
      = firstField? columns [durationColumn, options.durationName.label] read' :=
    firstField?_congr fun n hn => h n (List.mem_append_right [_, _] (List.mem_append_left _ hn))
  rw [Record.point?, Record.point?, hpatterns, hruntime, fieldOr, fieldOr, fieldOr, fieldOr,
    h algorithmColumn (by simp [chartNames]), h qubitsColumn (by simp [chartNames]),
    h datasetTypeColumn (by simp [chartNames])]

/-- The points of a chart are read off the records one by one and in their order. For each record
whose fields agree, the point is the measurement of the record. -/
theorem points_normalize_aggregate (options : SchemaOptions)
    (hreserved : ∀ r ∈ sets.flatten, ∀ f ∈ r.fields, f.1 ≠ sourceColumn ∧ f.1 ≠ datasetColumn) :
    ∃ measure : Record → Option BenchPoint,
      (normalize (aggregate sets) options).table.points = sets.flatten.filterMap measure ∧
        ∀ r ∈ sets.flatten, r.ChartFieldsAgree options.durationName →
          measure r = r.point? (payloadColumns sets.flatten) options r.get? := by
  obtain ⟨hsource, hdataset⟩ := notMem_payloadColumns hreserved
  refine ⟨fun r => r.point? (payloadColumns sets.flatten) options r.last?, ?_, ?_⟩
  · exact points_eq_filterMap hsource hdataset options
  · intro r _ hagree
    exact Record.point?_congr hagree _ r

/-- Two results, of which the first has a column with the name that charts give to the size. -/
def crowdedSets : List (List Record) := [
  [⟨.quartz, "10_5-eccs",
    [("Number of patterns", .int 7), ("size", .int 200), ("duration", .int 2)]⟩],
  [⟨.portmatching, "6_15-random", [("size", .int 400), ("duration", .int 1)]⟩]]

/-- The column that has the name already is the one that is read; the second result has no value
there. -/
theorem points_crowdedSets :
    (∀ r ∈ crowdedSets.flatten, ∀ f ∈ r.fields, f.1 ≠ sourceColumn ∧ f.1 ≠ datasetColumn) ∧
      (∀ r ∈ crowdedSets.flatten, r.ChartFieldsAgree .runtime) ∧
        (normalize (aggregate crowdedSets) .standard).table.points
          = [⟨7, Cell.floatOfInt 2, .quartz, "10_5-eccs", "10", "eccs"⟩] := by
  have hreserved : ∀ r ∈ crowdedSets.flatten, ∀ f ∈ r.fields,
      f.1 ≠ sourceColumn ∧ f.1 ≠ datasetColumn := by decide
  have hagree : ∀ r ∈ crowdedSets.flatten, r.ChartFieldsAgree .runtime := by decide
  refine ⟨hreserved, hagree, ?_⟩
  obtain ⟨measure, hpoints, hmeasure⟩ := points_normalize_aggregate .standard hreserved
  rw [hpoints, List.filterMap_congr fun r hr => hmeasure r hr (hagree r hr)]
  decide +kernel

/-- The names that charts give to columns. -/
def givenNames (name : DurationName) : List String :=
  [patternsColumn, name.label, algorithmColumn, qubitsColumn, datasetTypeColumn]

/-- A payload column is read under its own name, when the name that charts give it is not in use. -/
lemma firstField?_eq_get? {old new : String} (hnew : new ∉ payloadColumns sets.flatten)
    {r : Record} (hr : r ∈ sets.flatten) :
    firstField? (payloadColumns sets.flatten) [old, new] r.get? = r.get? old := by
  have hfind := find?_contains_eq_ite [old, new] (payloadColumns sets.flatten) old fun c hc => by
    have hne : c ≠ new := fun h => hnew (h ▸ hc)
    simp [hne]
  rw [firstField?, hfind]
  split
  · rfl
  next hold =>
    -- the name is that of no field at all
    refine (List.lookup_eq_none_iff.2 fun f hf => ?_).symm
    simpa using fun h : old = f.1 => hold (mem_payloadColumns.2 ⟨r, hr, f, hf, h.symm⟩)

/-- When no field has a name that charts give to columns, each point is the measurement of a record
by itself. -/
theorem points_eq_ownPoints (options : SchemaOptions)
    (hreserved : ∀ r ∈ sets.flatten, ∀ f ∈ r.fields, f.1 ≠ sourceColumn ∧ f.1 ≠ datasetColumn)
    (hgiven : ∀ n ∈ givenNames options.durationName, n ∉ payloadColumns sets.flatten)
    (hagree : ∀ r ∈ sets.flatten, r.ChartFieldsAgree options.durationName) :
    (normalize (aggregate sets) options).table.points
      = sets.flatten.filterMap (Record.ownPoint? options) := by
  obtain ⟨hsource, hdataset⟩ := notMem_payloadColumns hreserved
  rw [points_eq_filterMap hsource hdataset]
  refine List.filterMap_congr fun r hr => ?_
  rw [Record.point?_congr (hagree r hr), Record.point?,
    firstField?_eq_get? (hgiven _ (by simp [givenNames])) hr,
    firstField?_eq_get? (hgiven _ (by simp [givenNames])) hr,
    if_neg (hgiven _ (by simp [givenNames])), fieldOr, fieldOr,
    if_neg (hgiven _ (by simp [givenNames])), if_neg (hgiven _ (by simp [givenNames]))]
  rfl

/-- A field with a name that charts give takes the place of another, so that a point need not be the
measurement of a record by itself. -/
theorem not_forall_points_eq_ownPoints : ¬ ∀ (sets : List (List Record)) (options : SchemaOptions),
    (∀ r ∈ sets.flatten, ∀ f ∈ r.fields, f.1 ≠ sourceColumn ∧ f.1 ≠ datasetColumn) →
      (normalize (aggregate sets) options).table.points
        = sets.flatten.filterMap (Record.ownPoint? options) := by
  intro h
  have hpatterns := congrArg (List.map BenchPoint.patterns) (h crowdedSets .standard (by decide))
  revert hpatterns
  decide +kernel

end Points

end CircuitBench
