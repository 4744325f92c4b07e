import Mathlib
import CircuitBench.Proofs.Report.JsonTable
import CircuitBench.Proofs.Results.Points
import CircuitBench.Proofs.Results.Shape

/-!
# Exported objects and look-ups

Of columns with one name the last counts in an exported object (`lookup_rowMembers`), whereas a
look-up by name takes the first. The two agree on a name that stands over one column. In a table
that is ready for charts these are all names but those that charts give to columns, when a field has
such a name already (`count_columns_normalize_le`). `readWholeText_json_normalize` compares the
objects of such a table with look-ups, and `not_forall_shownInJson` is a table of which they differ.
-/

namespace CircuitBench

/-! ### The first and the last cell of a name -/

/-- The cell in a row and under the last column of a name. -/
def Table.lastCell? (t : Table) (row : Nat) (name : String) : Option Cell :=
  (t.rows[row]?).bind fun cells => (t.columns.zip cells).reverse.lookup name

/-- The first value of one name. -/
lemma firstOf?_singleton {α : Type} (name : String) (pairs : List (String × α)) :
    firstOf? [name] pairs = pairs.lookup name := by
  induction pairs with
  | nil => rfl
  | cons p pairs ih =>
    rw [firstOf?_cons, List.lookup_cons, ih]
    by_cases hname : p.1 = name
    · simp [hname]
    · have hne : (name == p.1) = false := beq_eq_false_iff_ne.2 (Ne.symm hname)
      rw [if_neg (mt List.mem_singleton.1 hname), hne]

/-- The last cell under a name that stands over one column is the one that a look-up finds. -/
lemma Table.lastCell?_eq_get? {t : Table} (ht : t.Rectangular) {name : String}
    (h : t.columns.count name ≤ 1) (row : Nat) : t.lastCell? row name = t.get? row name := by
  rw [lastCell?, get?]
  cases hrow : t.rows[row]? with
  | none => rfl
  | some cells =>
    have hlength := ht cells (List.mem_of_getElem? hrow)
    have hkeys : (t.columns.zip cells).map Prod.fst = t.columns :=
      List.map_fst_zip hlength.ge
    change (t.columns.zip cells).reverse.lookup name = t.cell? cells name
    rw [cell?_eq_firstOf?, firstOf?_singleton, lookup_reverse_of_count (by rwa [hkeys])]

/-! ### Members -/

/-- A name of a row has a cell at last, which is its member. -/
lemma lookup_rowMembers {columns : List String} {cells : List Cell}
    (hlength : cells.length = columns.length) {name : String} (hname : name ∈ columns) :
    ∃ cell, (columns.zip cells).reverse.lookup name = some cell ∧
      (rowMembers columns cells).lookup name = some cell := by
  have hkeys : (columns.zip cells).map Prod.fst = columns := List.map_fst_zip hlength.ge
  have hsome : ((columns.zip cells).reverse.lookup name).isSome = true := by
    refine List.lookup_isSome_iff.2 ?_
    rw [← hkeys] at hname
    obtain ⟨p, hp, rfl⟩ := List.mem_map.1 hname
    exact ⟨p, List.mem_reverse.2 hp, beq_self_eq_true _⟩
  obtain ⟨cell, hcell⟩ := Option.isSome_iff_exists.1 hsome
  refine ⟨cell, hcell, ?_⟩
  rw [rowMembers, hkeys, List.lookup_graph _ (mem_sortedDistinct.2 hname), hcell]
  rfl

/-- What JSON tells of a member. -/
lemma Json.lookup_shown (row : List (String × Cell)) (name : String) :
    (shown row).lookup name = (row.lookup name).map Cell.inJson := by
  induction row with
  | nil => rfl
  | cons p row ih =>
    rw [shown, List.map_cons, List.lookup_cons, List.lookup_cons, ← shown, ih]
    cases name == p.1 <;> rfl

/-! ### Names of columns -/

/-- A renaming adds no name but the new one. -/
lemma count_replace_le (name old new : String) (columns : List String) :
    (columns.replace old new).count name ≤ columns.count name + [new].count name := by
  rw [List.count_replace, List.count_singleton]
  split_ifs <;> omega

/-- Renamings add no names but the new ones. -/
lemma count_columns_renameAll_le (name : String) (mapping : List (String × String)) (t : Table) :
    (renameAll t mapping).columns.count name ≤
      t.columns.count name + (mapping.map Prod.snd).count name := by
  induction mapping generalizing t with
  | nil => exact Nat.le_add_right _ _
  | cons p mapping ih =>
    have hrename := count_replace_le name p.1 p.2 t.columns
    have hrest := ih (t.rename p.1 p.2)
    have hsplit : ((p :: mapping).map Prod.snd).count name =
        [p.2].count name + (mapping.map Prod.snd).count name := by
      rw [List.map_cons, ← List.singleton_append, List.count_append]
    rw [Table.columns_rename] at hrest
    rw [hsplit]
    change (renameAll (t.rename p.1 p.2) mapping).columns.count name ≤ _
    omega

/-- A table for charts has the names of fields, two others, and those that charts give. -/
lemma count_columns_normalize (name : String) (sets : List (List Record))
    (options : SchemaOptions) :
    (normalize (aggregate sets) options).table.table.columns.count name ≤
      (payloadColumns sets.flatten).count name +
        ([sourceColumn, datasetColumn] ++ givenNames options.durationName).count name := by
  have hrename := count_columns_renameAll_le name (columnMapping options.durationName)
    (aggregate sets)
  have hcolumns : (aggregate sets).columns
      = payloadColumns sets.flatten ++ [sourceColumn, datasetColumn] := rfl
  have hgiven : givenNames options.durationName
      = (columnMapping options.durationName).map Prod.snd ++
        ([qubitsColumn] ++ [datasetTypeColumn]) :=
    rfl
  have hnormal : (normalize (aggregate sets) options).table.table.columns
      = (renameAll (aggregate sets) (columnMapping options.durationName)).columns
        ++ [qubitsColumn] ++ [datasetTypeColumn] := rfl
  rw [hcolumns, List.count_append] at hrename
  rw [hnormal, hgiven]
  simp only [List.count_append] at hrename ⊢
  omega

/-- A name stands over one column of a table for charts at most, unless it is one that charts give
and a field has it already. -/
lemma count_columns_normalize_le {sets : List (List Record)}
    (hreserved : ∀ r ∈ sets.flatten, ∀ f ∈ r.fields, f.1 ≠ sourceColumn ∧ f.1 ≠ datasetColumn)
    (options : SchemaOptions) {name : String}
    (hname : name ∈ givenNames options.durationName → name ∉ payloadColumns sets.flatten) :
    (normalize (aggregate sets) options).table.table.columns.count name ≤ 1 := by
  obtain ⟨hsource, hdataset⟩ := notMem_payloadColumns hreserved
  have hcount := count_columns_normalize name sets options
  by_cases hmem : name ∈ payloadColumns sets.flatten
  · have hother : name ∉ [sourceColumn, datasetColumn] ++ givenNames options.durationName := by
      simp only [List.mem_append, List.mem_cons, List.not_mem_nil, or_false, not_or]
      exact ⟨⟨fun h => hsource (h ▸ hmem), fun h => hdataset (h ▸ hmem)⟩, fun h => hname h hmem⟩
    have hone := List.nodup_iff_count_le_one.1 (nodup_distinct
      (sets.flatten.flatMap fun r => r.fields.map Prod.fst)) name
    rw [List.count_eq_zero.2 hother] at hcount
    exact hcount.trans hone
  · have hnodup : ([sourceColumn, datasetColumn] ++ givenNames options.durationName).Nodup := by
      cases options.durationName <;> decide
    have hone := List.nodup_iff_count_le_one.1 hnodup name
    rw [List.count_eq_zero.2 hmem, Nat.zero_add] at hcount
    exact hcount.trans hone

/-! ### Tables for charts -/

/-- Each row is an object in JSON, which holds under each name of a column what a look-up finds. -/
def Table.ShownInJson (t : Table) : Prop :=
  ∃ objects, Json.readWholeText Json.readRows t.json = .ok objects ∧
    objects.length = t.rows.length ∧
    ∀ row object, objects[row]? = some object → ∀ name ∈ t.columns, ∃ cell,
      t.get? row name = some cell ∧ object.lookup name = some cell.inJson

/-- An object that is read from the JSON of a table has the members of a row. -/
lemma exists_row_of_json {t : Table} {objects : List (List (String × Cell))}
    (h : Json.readWholeText Json.readRows t.json = .ok objects) {row : Nat}
    {object : List (String × Cell)} (hobject : objects[row]? = some object) :
    ∃ cells, t.rows[row]? = some cells ∧ object = Json.shown (rowMembers t.columns cells) := by
  rw [Json.readWholeText_json] at h
  obtain rfl := Except.ok.inj h
  rw [List.getElem?_map] at hobject
  obtain ⟨cells, hcells, rfl⟩ := Option.map_eq_some_iff.1 hobject
  exact ⟨cells, hcells, rfl⟩

section Rectangular

variable {t : Table} (ht : t.Rectangular) {objects : List (List (String × Cell))}
  (h : Json.readWholeText Json.readRows t.json = .ok objects) {row : Nat}
  {object : List (String × Cell)} (hobject : objects[row]? = some object)

include ht h hobject

/-- Its keys are the names of columns, when the table is rectangular. -/
lemma map_fst_of_json : object.map Prod.fst = sortedDistinct t.columns := by
  obtain ⟨cells, hcells, rfl⟩ := exists_row_of_json h hobject
  have hkeys : (t.columns.zip cells).map Prod.fst = t.columns :=
    List.map_fst_zip (ht cells (List.mem_of_getElem? hcells)).ge
  rw [Json.shown, rowMembers, hkeys]
  simp [Function.comp_def]

/-- It holds the last cell under each name, when the table is rectangular. -/
lemma lookup_of_json {name : String} (hname : name ∈ t.columns) :
    ∃ cell, t.lastCell? row name = some cell ∧ object.lookup name = some cell.inJson := by
  obtain ⟨cells, hcells, rfl⟩ := exists_row_of_json h hobject
  obtain ⟨cell, hlast, hmember⟩ := lookup_rowMembers (ht cells (List.mem_of_getElem? hcells)) hname
  refine ⟨cell, ?_, ?_⟩
  · rw [Table.lastCell?, hcells]
    exact hlast
  · rw [Json.lookup_shown, hmember]
    rfl

end Rectangular

/-- The JSON of a table for charts is one object for each row, in their order, with the names of
columns as keys. An object holds the last cell under each name. A look-up by the name finds that
cell, unless charts give the name to a column and a field has it already. -/
theorem readWholeText_json_normalize (sets : List (List Record)) (options : SchemaOptions)
    (hreserved : ∀ r ∈ sets.flatten, ∀ f ∈ r.fields, f.1 ≠ sourceColumn ∧ f.1 ≠ datasetColumn) :
    ∃ objects, Json.readWholeText Json.readRows
        (normalize (aggregate sets) options).table.table.json = .ok objects ∧
      objects.length = (normalize (aggregate sets) options).table.table.rows.length ∧
      ∀ row object, objects[row]? = some object →
        object.map Prod.fst
          = sortedDistinct (normalize (aggregate sets) options).table.table.columns ∧
        ∀ name ∈ (normalize (aggregate sets) options).table.table.columns, ∃ cell,
          (normalize (aggregate sets) options).table.table.lastCell? row name = some cell ∧
          object.lookup name = some cell.inJson ∧
          ((name ∈ givenNames options.durationName → name ∉ payloadColumns sets.flatten) →
            (normalize (aggregate sets) options).table.table.get? row name = some cell) := by
  have ht := rectangular_normalize (rectangular_aggregate sets) options
  have hread := Json.readWholeText_json (normalize (aggregate sets) options).table.table
  refine ⟨_, hread, List.length_map _, fun row object hobject => ⟨?_, fun name hname => ?_⟩⟩
  · exact map_fst_of_json ht hread hobject
  · obtain ⟨cell, hlast, hlookup⟩ := lookup_of_json ht hread hobject hname
    refine ⟨cell, hlast, hlookup, fun hgiven => ?_⟩
    rw [← hlast]
    exact (Table.lastCell?_eq_get? ht
      (count_columns_normalize_le hreserved options hgiven) row).symm

/-- One result, from a file with a column that has the name that charts give to the size. -/
def shadowedSets : List (List Record) := [
  [⟨.quartz, "10_5-eccs",
    [("Number of patterns", .text "7"), ("size", .int 200), ("duration", .int 2)]⟩],
  []]

/-- The last cell under that name is the size, but a look-up finds the field. -/
lemma patterns_shadowedSets :
    (normalize (aggregate shadowedSets) .standard).table.table.rows.length = 1 ∧
      (normalize (aggregate shadowedSets) .standard).table.table.lastCell? 0 "Number of patterns"
        = some (.int 200) ∧
      (normalize (aggregate shadowedSets) .standard).table.table.get? 0 "Number of patterns"
        = some (.text "7") := by
  decide +kernel

/-- That field is left out in JSON, where the size stands under its name. The runtime is found under
the name that charts give to it. -/
theorem readWholeText_json_shadowedSets :
    ∃ object, Json.readWholeText Json.readRows
        (normalize (aggregate shadowedSets) .standard).table.table.json = .ok [object] ∧
      object.lookup "Number of patterns" = some (.int 200) ∧
      object.lookup "Runtime (s)" = some (.int 2) ∧
      (normalize (aggregate shadowedSets) .standard).table.table.get? 0 "Runtime (s)"
        = some (.int 2) := by
  obtain ⟨objects, hread, hlength, hobjects⟩ :=
    readWholeText_json_normalize shadowedSets .standard (by decide)
  obtain ⟨hrows, hsize, -⟩ := patterns_shadowedSets
  obtain ⟨object, rfl⟩ := List.length_eq_one_iff.1 (hlength.trans hrows)
  obtain ⟨-, hcells⟩ := hobjects 0 object rfl
  obtain ⟨patterns, hpatterns, hlookup, -⟩ := hcells "Number of patterns" (by decide +kernel)
  obtain ⟨runtime, hruntime, hlookup', hget⟩ := hcells "Runtime (s)" (by decide +kernel)
  have hduration : (normalize (aggregate shadowedSets) .standard).table.table.lastCell? 0
      "Runtime (s)" = some (.int 2) := by decide +kernel
  obtain rfl := Option.some.inj (hpatterns.symm.trans hsize)
  obtain rfl := Option.some.inj (hruntime.symm.trans hduration)
  exact ⟨object, hread, hlookup, hlookup', hget (by decide +kernel)⟩

/-- So the objects need not hold what look-ups by name find: a look-up finds that field. -/
theorem not_forall_shownInJson : ¬ ∀ (sets : List (List Record)) (options : SchemaOptions),
    (∀ r ∈ sets.flatten, ∀ f ∈ r.fields, f.1 ≠ sourceColumn ∧ f.1 ≠ datasetColumn) →
      (normalize (aggregate sets) options).table.table.ShownInJson := by
  intro h
  obtain ⟨objects, hread, hlength, hobjects⟩ := h shadowedSets .standard (by decide)
  have ht := rectangular_normalize (rectangular_aggregate shadowedSets) .standard
  obtain ⟨hrows, hsize, hfield⟩ := patterns_shadowedSets
  obtain ⟨object, rfl⟩ := List.length_eq_one_iff.1 (hlength.trans hrows)
  have hname : "Number of patterns" ∈
      (normalize (aggregate shadowedSets) .standard).table.table.columns := by decide +kernel
  obtain ⟨found, hfound, hlookup⟩ := hobjects 0 object rfl _ hname
  obtain ⟨last, hlast, hlookup'⟩ := lookup_of_json ht hread (rfl : [object][0]? = some object) hname
  obtain rfl := Option.some.inj (hfound.symm.trans hfield)
  obtain rfl := Option.some.inj (hlast.symm.trans hsize)
  cases Option.some.inj (hlookup.symm.trans hlookup')

end CircuitBench
