import CircuitBench.Results.Cell

/-!
# Tables

A `Table` has rows of cells under named columns. Names may repeat; the look-ups `Table.get?` and
`Table.column?` take the first column of a name, and so does `Table.rename?`. Rows are cut or filled
up to the columns that are there, and a column is added with a cell for each row.
-/

namespace CircuitBench

/-- Rows of cells under named columns. -/
structure Table where
  columns : List String
  rows : List (List Cell)
deriving BEq, Repr

/-- A list cut or filled up to a length. -/
def resize {α : Type} (length : Nat) (fill : α) (xs : List α) : List α :=
  xs.take length ++ List.replicate (length - xs.length) fill

@[simp] theorem length_resize {α : Type} (length : Nat) (fill : α) (xs : List α) :
    (resize length fill xs).length = length := by
  simp [resize]
  omega

/-- Rows with one more cell each, as long as there are cells. -/
def appendCells : List (List Cell) → List Cell → List (List Cell)
  | row :: rows, cell :: cells => (row ++ [cell]) :: appendCells rows cells
  | rows, _ => rows

namespace Table

/-- The table with the given columns and no rows. -/
def empty (columns : List String) : Table := ⟨columns, []⟩

/-- The place of the first column with a name. -/
def columnIndex? (t : Table) (name : String) : Option Nat :=
  t.columns.findIdx? (· == name)

/-- The table with one more row, which is cut or filled up with missing cells. -/
def pushRow (t : Table) (row : List Cell) : Table :=
  { t with rows := t.rows ++ [resize t.columns.length .missing row] }

/-- The table with the given rows added one after the other. -/
def pushRows (t : Table) (rows : List (List Cell)) : Table :=
  { t with rows := t.rows ++ rows.map (resize t.columns.length .missing) }

/-- The table with one more column, a cell for each row. -/
def pushColumn (t : Table) (name : String) (cells : List Cell) : Table :=
  ⟨t.columns ++ [name], appendCells t.rows cells⟩

/-- The table with the first column of a name renamed, if there is one. -/
def rename? (t : Table) (old new : String) : Option Table :=
  (t.columnIndex? old).map fun i => { t with columns := t.columns.set i new }

/-- The table with the first column of a name renamed; the same table if there is none. -/
def rename (t : Table) (old new : String) : Table :=
  (t.rename? old new).getD t

/-- The cell of a row under the first column of a name. -/
def cell? (t : Table) (row : List Cell) (name : String) : Option Cell :=
  (t.columnIndex? name).bind (row[·]?)

/-- The cell in a row and under the first column of a name. -/
def get? (t : Table) (row : Nat) (name : String) : Option Cell :=
  (t.rows[row]?).bind (t.cell? · name)

/-- The cells under the first column of a name, from top to bottom. -/
def column? (t : Table) (name : String) : Option (List Cell) :=
  (t.columnIndex? name).map fun i => t.rows.map (·.getD i .missing)

/-- The number of rows. -/
def length (t : Table) : Nat := t.rows.length

/-- Whether there are no rows. -/
def isEmpty (t : Table) : Bool := t.rows.isEmpty

@[simp] theorem columns_pushRow (t : Table) (row : List Cell) :
    (t.pushRow row).columns = t.columns := rfl

@[simp] theorem columns_pushColumn (t : Table) (name : String) (cells : List Cell) :
    (t.pushColumn name cells).columns = t.columns ++ [name] := rfl

end Table

end CircuitBench
