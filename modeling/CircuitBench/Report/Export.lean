import CircuitBench.Results.Grouping
import CircuitBench.Text.Lines
import CircuitBench.Json.Quoted

/-!
# Exported tables

A table as CSV, with a line of names first (`Table.csv`), or as a JSON list with an object for each
row (`Table.json`). The objects stand on lines of their own, their members sorted by key.
-/

namespace CircuitBench

/-- The file format of an exported table. -/
inductive ExportFormat where
  | csv
  | json
deriving DecidableEq, Repr

namespace Csv

/-- The characters for which a field is quoted. -/
def needsQuotes (c : Char) : Bool :=
  c == ',' || c == '"' || c == '\n' || c == '\r'

/-- A field in quotes; a quote inside is written twice. -/
def quote (cs : List Char) : List Char :=
  '"' :: (cs.flatMap (fun c => if c = '"' then ['"', '"'] else [c]) ++ ['"'])

/-- The written form of a field. -/
def field (cs : List Char) : List Char :=
  if cs.any needsQuotes then quote cs else cs

/-- A line of fields. A line that would be empty holds two quotes. -/
def record (fields : List (List Char)) : List Char :=
  let line := Text.join [','] (fields.map field)
  (if line.isEmpty then ['"', '"'] else line) ++ ['\n']

end Csv

/-- A table as CSV; missing cells are empty. -/
def Table.csv (t : Table) : List Char :=
  Csv.record (t.columns.map String.toList) ++
    t.rows.flatMap fun row => Csv.record (row.map Cell.written)

/-- A cell as JSON; missing cells and floats that are not finite are `null`. -/
def Cell.json : Cell → List Char
  | .int i => Number.intText i
  | .float x => (Number.jsonText x).getD "null".toList
  | .text s => Json.quote s.toList
  | .missing => "null".toList

/-- The members of a row sorted by name; of columns with one name the last counts. -/
def rowMembers (columns : List String) (row : List Cell) : List (String × Cell) :=
  let members := columns.zip row
  (sortedDistinct (members.map Prod.fst)).map fun name =>
    (name, (members.reverse.lookup name).getD .missing)

/-- Items in brackets, each on a line of its own, with the margin of the line that they end on. -/
def Json.block (opening closing : Char) (margin : List Char) (items : List (List Char)) :
    List Char :=
  if items.isEmpty then [opening, closing]
  else
    opening :: '\n' :: (Text.join [',', '\n'] (items.map (margin ++ [' ', ' '] ++ ·)) ++
      '\n' :: (margin ++ [closing]))

/-- A row as a JSON object. -/
def rowJson (columns : List String) (row : List Cell) : List Char :=
  Json.block '\x7b' '\x7d' [' ', ' '] ((rowMembers columns row).map fun (name, cell) =>
    Json.quote name.toList ++ ':' :: ' ' :: cell.json)

/-- A table as a JSON list. -/
def Table.json (t : Table) : List Char :=
  Json.block '[' ']' [] (t.rows.map (rowJson t.columns))

/-- A table in a file format. -/
def Table.exported (t : Table) : ExportFormat → List Char
  | .csv => t.csv
  | .json => t.json

end CircuitBench
