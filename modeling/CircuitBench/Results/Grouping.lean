import CircuitBench.Results.Table
import CircuitBench.Number.Digits

/-!
# Counting and grouping

Counts of rows and groups of values by the written form of a column (`Table.countBy`,
`Table.distinctBy`), both listed by key in the order of code points. `distinct` has the values of a
list in order of first appearance, and `sortKeys` brings keys into numeric order if they are all
numbers, else into the order of code points.
-/

namespace CircuitBench

/-- The number below `2 ^ 64` that a key denotes. -/
def keyNumber? (key : String) : Option Nat :=
  Number.readNat? Number.word64 key.toList

/-- Keys in ascending order: by number when all of them are numbers below `2 ^ 64`, equal numbers in
their given order; by code points otherwise. -/
def sortKeys (keys : List String) : List String :=
  if keys.all fun k => (keyNumber? k).isSome then
    keys.mergeSort fun a b => (keyNumber? a).getD 0 ≤ (keyNumber? b).getD 0
  else
    keys.mergeSort fun a b => decide (a ≤ b)

/-- A list with one more value at its end, unless it is there already. -/
def insertNew {α : Type} [BEq α] (xs : List α) (x : α) : List α :=
  if xs.contains x then xs else xs ++ [x]

/-- The values of a list without repetitions, in order of first appearance. -/
def distinct {α : Type} [BEq α] (xs : List α) : List α :=
  xs.foldl insertNew []

/-- The values of a list of keys in the order of code points, each once. -/
def sortedDistinct (keys : List String) : List String :=
  (distinct keys).mergeSort fun a b => decide (a ≤ b)

namespace Table

/-- The written forms of the cells under a column; nothing if there is no such column. -/
def writtenColumn (t : Table) (name : String) : List String :=
  ((t.column? name).getD []).map fun c => String.ofList c.written

/-- The number of rows for each written form in a column. -/
def countBy (t : Table) (column : String) : List (String × Nat) :=
  let keys := t.writtenColumn column
  (sortedDistinct keys).map fun key => (key, keys.count key)

/-- The distinct written forms of one column for each written form of another, sorted. -/
def distinctBy (t : Table) (keyColumn valueColumn : String) : List (String × List String) :=
  let pairs := (t.writtenColumn keyColumn).zip (t.writtenColumn valueColumn)
  (sortedDistinct (pairs.map Prod.fst)).map fun key =>
    (key, sortKeys (distinct ((pairs.filter (·.1 == key)).map Prod.snd)))

end Table

end CircuitBench
