import Mathlib
import CircuitBench.Proofs.Results.Shape

/-!
# Tables that change

A table starts with columns only, whose names may repeat. Then rows are added, columns are renamed
and columns are added, in any order and any number of times, each new column with a cell for each
row (`TableChange`, `Table.run`). Whatever was done before, the table is rectangular
(`Table.Rectangular.run`), a look-up by name finds a cell in each row, and the next change touches
nothing but what it is about (`Table.keepsCells_run`). `Table.orderly_run` is all of this.

A column that is added under a name that there is already is not found by any name: the look-ups
stop at the first column of a name.
-/

namespace CircuitBench

/-- What may be done to a table. -/
inductive TableChange where
  | pushRow (row : List Cell)
  | rename (old new : String)
  | pushColumn (name : String) (cells : List Cell)

namespace TableChange

/-- The table after a change. -/
def apply (t : Table) : TableChange → Table
  | .pushRow row => t.pushRow row
  | .rename old new => t.rename old new
  | .pushColumn name cells => t.pushColumn name cells

/-- A new column has a cell for each row. Rows may have any length, and names need not be there. -/
def Fits (t : Table) : TableChange → Prop
  | .pushRow _ => True
  | .rename _ _ => True
  | .pushColumn _ cells => cells.length = t.length

instance (t : Table) (change : TableChange) : Decidable (change.Fits t) :=
  match change with
  | .pushRow _ => inferInstanceAs (Decidable True)
  | .rename _ _ => inferInstanceAs (Decidable True)
  | .pushColumn _ cells => inferInstanceAs (Decidable (cells.length = _))

end TableChange

namespace Table

/-- The table after several changes. -/
def run (t : Table) (changes : List TableChange) : Table :=
  changes.foldl TableChange.apply t

/-- Each of several changes fits the table that the ones before it leave. -/
def Admits (t : Table) : List TableChange → Prop
  | [] => True
  | change :: changes => change.Fits t ∧ (change.apply t).Admits changes

instance decidableAdmits (t : Table) : (changes : List TableChange) → Decidable (t.Admits changes)
  | [] => inferInstanceAs (Decidable True)
  | change :: changes =>
    have := decidableAdmits (change.apply t) changes
    inferInstanceAs (Decidable (_ ∧ _))

/-- The cell in a row and at a place of it. -/
def cellAt? (t : Table) (row place : Nat) : Option Cell :=
  (t.rows[row]?).bind (·[place]?)

/-! ### What a table finds and what a change does -/

/-- Look-ups under a name agree with one another, and find a cell in each row if the name is the
name of a column. -/
structure FindsByName (t : Table) (name : String) : Prop where
  /-- The place of the name is a place of each row. -/
  inside : ∀ place, t.columnIndex? name = some place → ∀ row ∈ t.rows, place < row.length
  /-- The column is the list of the cells that are found in the rows, one in each. -/
  column : name ∈ t.columns → ∃ cells, t.column? name = some cells ∧
    cells.map some = (List.range t.length).map (t.get? · name)
  /-- Nothing is found under other names. -/
  absent : name ∉ t.columns → t.column? name = none ∧ ∀ r, t.get? r name = none

/-- A row is added under the others. -/
structure AddsRow (t : Table) (row : List Cell) (t' : Table) : Prop where
  columns : t'.columns = t.columns
  length : t'.length = t.length + 1
  /-- Earlier rows are kept. -/
  kept : ∀ r < t.length, t'.rows[r]? = t.rows[r]?
  /-- The row is cut or filled up to the columns. -/
  added : ∀ place < t.columns.length,
    t'.cellAt? t.length place = some ((row[place]?).getD .missing)

/-- The first column of a name has another name, and everything else is as it was. -/
structure RenamesFirst (t : Table) (old new : String) (t' : Table) : Prop where
  rows : t'.rows = t.rows
  /-- The name that is changed is the first of those that are equal to the old one. -/
  first : ∀ before after, t.columns = before ++ old :: after → old ∉ before →
    t'.columns = before ++ new :: after
  /-- The answer tells whether there is such a name. -/
  absent : t.rename? old new = none ↔ old ∉ t.columns
  /-- No name is changed then. -/
  unchanged : old ∉ t.columns → t' = t

/-- A column is added to the right of the others. -/
structure AddsColumn (t : Table) (name : String) (cells : List Cell) (t' : Table) : Prop where
  columns : t'.columns = t.columns ++ [name]
  length : t'.length = t.length
  /-- Earlier cells are kept, and the new ones stand at the last place of each row. -/
  cellAt? : ∀ r place, t'.cellAt? r place
    = if place = t.columns.length then cells[r]? else t.cellAt? r place
  /-- Earlier look-ups by name are kept. -/
  lookups : ∀ other ∈ t.columns, t'.columnIndex? other = t.columnIndex? other ∧
    t'.column? other = t.column? other ∧ ∀ r, t'.get? r other = t.get? r other
  /-- A new name finds the new column. -/
  new : name ∉ t.columns → t'.column? name = some cells
  /-- Under a name that there is already no look-up reaches the new column. -/
  hidden : (∀ other, t'.columnIndex? other ≠ some t.columns.length) ↔ name ∈ t.columns

/-- Cells stay in their places. -/
def KeepsCells (t t' : Table) : Prop :=
  ∀ r place cell, t.cellAt? r place = some cell → t'.cellAt? r place = some cell

/-- The table is rectangular, is read by name without failing, and each change of it touches nothing
but what it is about. -/
structure Orderly (t : Table) : Prop where
  rectangular : t.Rectangular
  finds : ∀ name, t.FindsByName name
  pushRow : ∀ row, t.AddsRow row (t.pushRow row)
  rename : ∀ old new, t.RenamesFirst old new (t.rename old new)
  pushColumn : ∀ name cells, cells.length = t.length →
    t.AddsColumn name cells (t.pushColumn name cells)

variable {t : Table}

/-! ### Look-ups -/

/-- A look-up by name is a look-up at the place of the name. -/
lemma get?_eq_bind_cellAt? (t : Table) (row : Nat) (name : String) :
    t.get? row name = (t.columnIndex? name).bind (t.cellAt? row) := by
  simp only [get?, cell?]
  cases t.columnIndex? name with
  | none => exact Option.bind_fun_none _
  | some place => rfl

/-- A rectangular table has a cell at each place of each row. -/
lemma Rectangular.cellAt?_eq_some (h : t.Rectangular) {row place : Nat} (hrow : row < t.rows.length)
    (hplace : place < t.columns.length) :
    t.cellAt? row place = some ((t.rows[row]).getD place .missing) := by
  have hlength := h _ (List.getElem_mem hrow)
  rw [cellAt?, List.getElem?_eq_getElem hrow, Option.bind_some, List.getD_eq_getElem?_getD,
    List.getElem?_eq_getElem (hlength ▸ hplace), Option.getD_some]

/-- A column of a rectangular table is made of the cells at the place of its name. -/
lemma Rectangular.map_some_column (h : t.Rectangular) {place : Nat}
    (hplace : place < t.columns.length) :
    (t.rows.map (·.getD place .missing)).map some
      = (List.range t.length).map (t.cellAt? · place) := by
  refine List.ext_getElem (by simp [length]) fun r hr _ => ?_
  rw [List.length_map, List.length_map] at hr
  rw [List.getElem_map, List.getElem_map, List.getElem_map, List.getElem_range,
    h.cellAt?_eq_some hr hplace]

/-- A rectangular table is read by name without failing. -/
lemma Rectangular.findsByName (h : t.Rectangular) (name : String) : t.FindsByName name where
  inside place hplace row hrow := by
    rw [h row hrow]
    exact columnIndex?_lt hplace
  column hname := by
    obtain ⟨place, hplace⟩ := exists_columnIndex? hname
    refine ⟨_, by rw [column?, hplace, Option.map_some], ?_⟩
    rw [h.map_some_column (columnIndex?_lt hplace)]
    refine List.map_congr_left fun r _ => ?_
    rw [get?_eq_bind_cellAt?, hplace, Option.bind_some]
  absent hname := by
    have hnone := columnIndex?_eq_none_iff.2 hname
    refine ⟨by rw [column?, hnone, Option.map_none], fun r => ?_⟩
    rw [get?_eq_bind_cellAt?, hnone, Option.bind_none]

/-! ### Rows -/

/-- A place of a list that is cut or filled up. -/
lemma getElem?_resize {α : Type} {n place : Nat} (hplace : place < n) (fill : α) (xs : List α) :
    (resize n fill xs)[place]? = some ((xs[place]?).getD fill) := by
  rw [resize]
  by_cases hshort : place < xs.length
  · rw [List.getElem?_append_left (by rw [List.length_take]; omega),
      List.getElem?_take_of_lt hplace, List.getElem?_eq_getElem hshort, Option.getD_some]
  · rw [List.getElem?_append_right (by rw [List.length_take]; omega), List.length_take,
      List.getElem?_replicate, if_pos (by omega), List.getElem?_eq_none (by omega),
      Option.getD_none]

/-- What a new row does. -/
lemma addsRow_pushRow (t : Table) (row : List Cell) : t.AddsRow row (t.pushRow row) where
  columns := rfl
  length := List.length_append
  kept r hr := List.getElem?_append_left hr
  added place hplace := by
    rw [cellAt?, pushRow, length, List.getElem?_concat_length, Option.bind_some,
      getElem?_resize hplace]

/-! ### Names -/

/-- What a renaming does. -/
lemma renamesFirst_rename (t : Table) (old new : String) :
    t.RenamesFirst old new (t.rename old new) where
  rows := rows_rename t old new
  first before after hcolumns hbefore := by
    rw [columns_rename, hcolumns, List.replace_append, if_neg hbefore, List.replace_cons_self]
  absent := by rw [rename?, Option.map_eq_none_iff, columnIndex?_eq_none_iff]
  unchanged habsent := by
    rw [rename, rename?, columnIndex?_eq_none_iff.2 habsent, Option.map_none, Option.getD_none]

/-! ### Columns -/

/-- Rows with a cell each, when there are as many cells as rows. -/
lemma appendCells_eq_zipWith {rows : List (List Cell)} {cells : List Cell}
    (h : cells.length = rows.length) :
    appendCells rows cells = List.zipWith (fun row cell => row ++ [cell]) rows cells := by
  induction rows generalizing cells with
  | nil => rfl
  | cons row rows ih =>
    obtain ⟨cell, cells, rfl⟩ := List.exists_cons_of_length_eq_add_one h
    rw [appendCells, List.zipWith_cons_cons, ih (Nat.succ.inj h)]

/-- The cells of a table with one more column. -/
lemma Rectangular.cellAt?_pushColumn (h : t.Rectangular) (name : String) {cells : List Cell}
    (hcells : cells.length = t.length) (row place : Nat) :
    (t.pushColumn name cells).cellAt? row place
      = if place = t.columns.length then cells[row]? else t.cellAt? row place := by
  rw [cellAt?, cellAt?, Table.pushColumn, appendCells_eq_zipWith hcells, List.getElem?_zipWith]
  by_cases hrow : row < t.rows.length
  · have hcell : row < cells.length := hcells.symm ▸ hrow
    have hlength : (t.rows[row]).length = t.columns.length := h _ (List.getElem_mem hrow)
    rw [List.getElem?_eq_getElem hrow, List.getElem?_eq_getElem hcell]
    change (t.rows[row] ++ [cells[row]])[place]? =
      if _ then some cells[row] else (t.rows[row])[place]?
    -- a place that is not the last one is a place of the old row or of neither row
    rw [List.getElem?_append, hlength]
    split_ifs with hlt heq heq
    · omega
    · rfl
    · simp [heq]
    · rw [List.getElem?_eq_none (by rw [List.length_singleton]; omega),
        List.getElem?_eq_none (by omega)]
  · have hnorow : t.rows[row]? = none := List.getElem?_eq_none (Nat.le_of_not_lt hrow)
    have hnocell : cells[row]? = none := List.getElem?_eq_none (hcells ▸ Nat.le_of_not_lt hrow)
    rw [hnorow, hnocell]
    simp

/-- The columns of a table with one more column, from the left to the right. -/
lemma Rectangular.map_getD_pushColumn (h : t.Rectangular) (name : String) {cells : List Cell}
    (hcells : cells.length = t.length) {place : Nat} (hplace : place ≤ t.columns.length) :
    (t.pushColumn name cells).rows.map (·.getD place .missing)
      = if place = t.columns.length then cells else t.rows.map (·.getD place .missing) := by
  have hlength : (t.pushColumn name cells).length = t.length := length_appendCells _ _
  have hplace' : place < (t.pushColumn name cells).columns.length := by
    rw [columns_pushColumn, List.length_append]
    exact Nat.lt_succ_of_le hplace
  refine List.map_injective_iff.2 (Option.some_injective _) ?_
  rw [(h.pushColumn name hcells).map_some_column hplace', hlength]
  simp only [h.cellAt?_pushColumn name hcells]
  split_ifs with heq
  · refine List.ext_getElem (by simp [hcells]) fun r hr _ => ?_
    rw [List.length_map, List.length_range, ← hcells] at hr
    rw [List.getElem_map, List.getElem_map, List.getElem_range, List.getElem?_eq_getElem hr]
  · exact (h.map_some_column (Nat.lt_of_le_of_ne hplace heq)).symm

/-- The place of a name in a table with one more column. -/
lemma columnIndex?_pushColumn (t : Table) (name : String) (cells : List Cell) (other : String) :
    (t.pushColumn name cells).columnIndex? other
      = (t.columnIndex? other).or (if name = other then some t.columns.length else none) := by
  rw [columnIndex?, columnIndex?, columns_pushColumn, List.findIdx?_append, List.findIdx?_cons]
  by_cases h : name = other <;> simp [h]

/-- Names that are there keep their places. -/
lemma columnIndex?_pushColumn_of_mem {other : String} (h : other ∈ t.columns) (name : String)
    (cells : List Cell) :
    (t.pushColumn name cells).columnIndex? other = t.columnIndex? other := by
  obtain ⟨place, hplace⟩ := exists_columnIndex? h
  rw [columnIndex?_pushColumn, hplace, Option.some_or]

/-- A new name has the last place. -/
lemma columnIndex?_pushColumn_of_notMem {name : String} {cells : List Cell} (h : name ∉ t.columns) :
    (t.pushColumn name cells).columnIndex? name = some t.columns.length := by
  rw [columnIndex?_pushColumn, columnIndex?_eq_none_iff.2 h, Option.none_or, if_pos rfl]

/-- No name has the last place if the name of the new column is not new. -/
lemma columnIndex?_pushColumn_ne {name : String} {cells : List Cell} (h : name ∈ t.columns)
    (other : String) : (t.pushColumn name cells).columnIndex? other ≠ some t.columns.length := by
  by_cases hother : other ∈ t.columns
  · rw [columnIndex?_pushColumn_of_mem hother name cells]
    exact fun hplace => (columnIndex?_lt hplace).ne rfl
  · have hne : name ≠ other := ne_of_mem_of_not_mem h hother
    rw [columnIndex?_pushColumn, columnIndex?_eq_none_iff.2 hother, if_neg hne]
    exact nofun

/-- What a new column does. -/
lemma Rectangular.addsColumn_pushColumn (h : t.Rectangular) (name : String) {cells : List Cell}
    (hcells : cells.length = t.length) : t.AddsColumn name cells (t.pushColumn name cells) where
  columns := rfl
  length := length_appendCells _ _
  cellAt? := h.cellAt?_pushColumn name hcells
  lookups other hother := by
    obtain ⟨place, hold⟩ := exists_columnIndex? hother
    have hnew := (columnIndex?_pushColumn_of_mem hother name cells).trans hold
    have hplace := columnIndex?_lt hold
    refine ⟨hnew.trans hold.symm, ?_, fun r => ?_⟩
    · rw [column?, column?, hold, hnew, Option.map_some, Option.map_some,
        h.map_getD_pushColumn name hcells hplace.le, if_neg hplace.ne]
    · rw [get?_eq_bind_cellAt?, get?_eq_bind_cellAt?, hold, hnew, Option.bind_some,
        Option.bind_some, h.cellAt?_pushColumn name hcells, if_neg hplace.ne]
  new hname := by
    rw [column?, columnIndex?_pushColumn_of_notMem hname, Option.map_some,
      h.map_getD_pushColumn name hcells le_rfl, if_pos rfl]
  hidden := by
    refine ⟨fun hnone => ?_, columnIndex?_pushColumn_ne⟩
    by_contra hname
    exact hnone name (columnIndex?_pushColumn_of_notMem hname)

/-! ### Changes one after the other -/

/-- A change leaves a rectangular table rectangular. -/
lemma Rectangular.apply (h : t.Rectangular) {change : TableChange} (hfits : change.Fits t) :
    (change.apply t).Rectangular := by
  cases change with
  | pushRow row => exact h.pushRow row
  | rename old new => exact h.rename old new
  | pushColumn name cells => exact h.pushColumn name hfits

/-- So do several. -/
lemma Rectangular.run (h : t.Rectangular) {changes : List TableChange}
    (hadmits : t.Admits changes) :
    (t.run changes).Rectangular := by
  -- each change fits the table that it meets, so the table varies along the induction
  induction changes generalizing t with
  | nil => exact h
  | cons change changes ih => exact ih (h.apply hadmits.1) hadmits.2

/-- A change leaves all cells in their places. -/
lemma keepsCells_apply (h : t.Rectangular) {change : TableChange} (hfits : change.Fits t) :
    t.KeepsCells (change.apply t) := by
  intro r place cell hcell
  -- a cell that is there stands in a row and under a column that are there
  have hrow : r < t.length := by
    by_contra hout
    rw [cellAt?, List.getElem?_eq_none (Nat.le_of_not_lt hout)] at hcell
    cases hcell
  cases change with
  | pushRow row =>
    rw [cellAt?, TableChange.apply, (t.addsRow_pushRow row).kept r hrow]
    exact hcell
  | rename old new =>
    rw [cellAt?, TableChange.apply, rows_rename]
    exact hcell
  | pushColumn name cells =>
    have hplace : place ≠ t.columns.length := by
      rintro rfl
      rw [cellAt?, List.getElem?_eq_getElem hrow, Option.bind_some,
        List.getElem?_eq_none (h _ (List.getElem_mem hrow)).le] at hcell
      cases hcell
    rw [TableChange.apply, h.cellAt?_pushColumn name hfits, if_neg hplace, hcell]

/-- So do several. -/
lemma keepsCells_run (h : t.Rectangular) {changes : List TableChange} (hadmits : t.Admits changes) :
    t.KeepsCells (t.run changes) := by
  induction changes generalizing t with
  | nil => exact fun _ _ _ hcell => hcell
  | cons change changes ih =>
    intro r place cell hcell
    exact ih (h.apply hadmits.1) hadmits.2 r place cell
      (keepsCells_apply h hadmits.1 r place cell hcell)

/-- A rectangular table is orderly. -/
lemma Rectangular.orderly (h : t.Rectangular) : t.Orderly where
  rectangular := h
  finds := h.findsByName
  pushRow := t.addsRow_pushRow
  rename := t.renamesFirst_rename
  pushColumn name _ hcells := h.addsColumn_pushColumn name hcells

/-- After any changes of a table without rows, whatever the names of its columns, the table is
orderly, and whatever is done to it then, its cells stay in their places and it stays orderly. -/
theorem orderly_run {columns : List String} {changes : List TableChange}
    (h : (Table.empty columns).Admits changes) :
    ((Table.empty columns).run changes).Orderly ∧
      ∀ more, ((Table.empty columns).run changes).Admits more →
        ((Table.empty columns).run changes).KeepsCells
          (((Table.empty columns).run changes).run more) ∧
          (((Table.empty columns).run changes).run more).Orderly := by
  have hrect := (rectangular_empty columns).run h
  exact ⟨hrect.orderly, fun more hmore => ⟨keepsCells_run hrect hmore, (hrect.run hmore).orderly⟩⟩

/-- Two columns of one name, a row that is too short and one that is too long, a name that is
changed to one that there is already, and two more columns of that name. -/
def repeatedNames : List TableChange :=
  [.pushRow [.int 200], .pushColumn "duration" [.float 0.5],
    .pushRow [.int 1, .int 2, .int 3, .int 4], .rename "size" "duration",
    .pushColumn "duration" [.missing, .text "kept"], .rename "absent" "size",
    .pushRow [], .pushColumn "duration" [.int 7, .int 8, .int 9]]

/-- What may be done after that. -/
def moreNames : List TableChange :=
  [.rename "duration" "size", .pushRow [.text "new"],
    .pushColumn "size" [.missing, .int 1, .int 2, .int 3]]

/-- Names that repeat at the start and are made to repeat later do no harm. -/
theorem orderly_repeatedNames :
    (Table.empty ["size", "size"]).Admits repeatedNames ∧
      ((Table.empty ["size", "size"]).run repeatedNames).Admits moreNames ∧
      ((Table.empty ["size", "size"]).run repeatedNames).Orderly ∧
      ((Table.empty ["size", "size"]).run repeatedNames).KeepsCells
        (((Table.empty ["size", "size"]).run repeatedNames).run moreNames) ∧
      (((Table.empty ["size", "size"]).run repeatedNames).run moreNames).Orderly :=
  have h : (Table.empty ["size", "size"]).Admits repeatedNames := by decide +kernel
  have hmore :
      ((Table.empty ["size", "size"]).run repeatedNames).Admits moreNames := by decide +kernel
  ⟨h, hmore, (orderly_run h).1, (orderly_run h).2 moreNames hmore⟩

end Table

end CircuitBench
