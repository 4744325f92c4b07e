import CircuitBench.Results.Normalize
import CircuitBench.Proofs.Results.Tables
import CircuitBench.Proofs.Results.Derivation

/-!
# The shape of tables

Rows are as long as the list of columns in an empty table, and whatever is done to a table keeps
them so, provided that a new column has a cell for each row (`Table.Rectangular`). The tables of
results are of this shape (`rectangular_aggregate`, `rectangular_normalize`).
-/

namespace CircuitBench

namespace Table

/-- Each row has a cell for each column. -/
def Rectangular (t : Table) : Prop :=
  ∀ row ∈ t.rows, row.length = t.columns.length

instance (t : Table) : Decidable t.Rectangular :=
  inferInstanceAs (Decidable (∀ row ∈ t.rows, row.length = t.columns.length))

/-- A table without rows. -/
lemma rectangular_empty (columns : List String) : (Table.empty columns).Rectangular := by
  intro row hrow
  cases hrow

variable {t : Table}

/-- New rows are cut or filled up. -/
lemma Rectangular.pushRows (h : t.Rectangular) (rows : List (List Cell)) :
    (t.pushRows rows).Rectangular := by
  intro row hrow
  rcases List.mem_append.1 hrow with hold | hnew
  · exact h row hold
  · obtain ⟨cells, -, rfl⟩ := List.mem_map.1 hnew
    exact length_resize _ _ cells

/-- A name has a place if it is the name of a column. -/
lemma columnIndex?_eq_none_iff {name : String} : t.columnIndex? name = none ↔ name ∉ t.columns := by
  rw [columnIndex?, List.findIdx?_eq_none_iff]
  constructor
  · intro h hmem
    exact absurd (h name hmem) (by simp)
  · intro h column hcolumn
    exact beq_eq_false_iff_ne.2 (ne_of_mem_of_not_mem hcolumn h)

/-- The name of a column has a place. -/
lemma exists_columnIndex? {name : String} (h : name ∈ t.columns) :
    ∃ place, t.columnIndex? name = some place :=
  Option.ne_none_iff_exists'.1 fun hnone => columnIndex?_eq_none_iff.1 hnone h

/-- The place of a name is the place of a column. -/
lemma columnIndex?_lt {name : String} {place : Nat} (h : t.columnIndex? name = some place) :
    place < t.columns.length :=
  (List.findIdx?_eq_some_iff_getElem.1 h).1

/-- A look-up under the name of a column finds a cell. -/
lemma Rectangular.exists_cell? (h : t.Rectangular) {row : List Cell} (hrow : row ∈ t.rows)
    {name : String} (hname : name ∈ t.columns) : ∃ cell, t.cell? row name = some cell := by
  obtain ⟨i, hi⟩ := exists_columnIndex? hname
  have hbound : i < row.length := by
    rw [h row hrow]
    exact columnIndex?_lt hi
  exact ⟨row[i], by rw [cell?, hi, Option.bind_some, List.getElem?_eq_getElem hbound]⟩

/-- A new row is cut or filled up. -/
lemma Rectangular.pushRow (h : t.Rectangular) (row : List Cell) : (t.pushRow row).Rectangular :=
  h.pushRows [row]

/-- A name replaces another one. -/
lemma Rectangular.rename (h : t.Rectangular) (old new : String) :
    (t.rename old new).Rectangular := by
  intro row hrow
  rw [rows_rename] at hrow
  rw [length_columns_rename]
  exact h row hrow

/-- A new column adds no rows. -/
@[simp] lemma length_appendCells (rows : List (List Cell)) (cells : List Cell) :
    (appendCells rows cells).length = rows.length := by
  induction rows generalizing cells with
  | nil => rfl
  | cons row rows ih =>
    cases cells with
    | nil => rfl
    | cons cell cells => rw [appendCells, List.length_cons, ih, List.length_cons]

/-- Rows get one cell each, when there are as many cells as rows. -/
lemma length_of_mem_appendCells {rows : List (List Cell)} {cells : List Cell} {n : Nat}
    (hlength : cells.length = rows.length) (h : ∀ row ∈ rows, row.length = n) :
    ∀ row ∈ appendCells rows cells, row.length = n + 1 := by
  induction rows generalizing cells with
  | nil =>
    obtain rfl := List.eq_nil_of_length_eq_zero hlength
    intro row hrow
    cases hrow
  | cons first rows ih =>
    obtain ⟨cell, cells, rfl⟩ := List.exists_cons_of_length_eq_add_one hlength
    intro row hrow
    rcases List.mem_cons.1 hrow with rfl | hrest
    · rw [List.length_append, h first List.mem_cons_self, List.length_singleton]
    · exact ih (Nat.succ.inj hlength)
        (fun row hmem => h row (List.mem_cons_of_mem _ hmem)) row hrest

/-- A new column has a cell for each row. -/
lemma Rectangular.pushColumn (h : t.Rectangular) (name : String) {cells : List Cell}
    (hcells : cells.length = t.rows.length) : (t.pushColumn name cells).Rectangular := by
  intro row hrow
  rw [columns_pushColumn, List.length_append]
  exact length_of_mem_appendCells hcells h row hrow

/-- Columns are renamed one after the other. -/
lemma Rectangular.renameAll (h : t.Rectangular) (mapping : List (String × String)) :
    (CircuitBench.renameAll t mapping).Rectangular := by
  induction mapping generalizing t with
  | nil => exact h
  | cons p mapping ih => exact ih (h.rename p.1 p.2)

end Table

/-- The table of all records is rectangular. -/
theorem rectangular_aggregate (sets : List (List Record)) : (aggregate sets).Rectangular :=
  (Table.rectangular_empty _).pushRows _

/-- So is the table that is ready for charts, when the table it was made from is. -/
theorem rectangular_normalize {t : Table} (h : t.Rectangular) (options : SchemaOptions) :
    (normalize t options).table.table.Rectangular := by
  have hrenamed := h.renameAll (columnMapping options.durationName)
  have hderived := covers_derive options.grammar
    (renameAll t (columnMapping options.durationName)).identifiers
  refine (hrenamed.pushColumn qubitsColumn ?_).pushColumn datasetTypeColumn ?_
  · rw [hderived.qubits, List.length_map, Table.identifiers, List.length_map]
  · rw [hderived.datasetTypes, List.length_map, Table.identifiers, List.length_map]
    exact (Table.length_appendCells _ _).symm

end CircuitBench
