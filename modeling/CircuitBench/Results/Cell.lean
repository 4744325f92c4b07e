import CircuitBench.Text.Blank
import CircuitBench.Number.Reading
import CircuitBench.Number.Printing

/-!
# Cells

The values in tables of results: integers, floats, texts, and missing values. `Cell.infer` takes a
raw field as specifically as possible and `Cell.verbatim` as a text. `Cell.toFloat?`,
`Cell.toCount?` and `Cell.toText?` are views of a cell.
-/

namespace CircuitBench

/-- A value in a table of results. -/
inductive Cell where
  | int (value : Int)
  | float (value : Float)
  | text (value : String)
  /-- Absent from the file, or blank there. -/
  | missing
deriving BEq, Repr

namespace Cell

/-- The value of a raw field: an integer of 64 bits, else a float, else the trimmed text. -/
def infer (raw : List Char) : Cell :=
  let field := Text.trim raw
  if field.isEmpty then .missing
  else match Number.readInt? Number.signed64 field with
    | some i => .int i
    | none =>
      match Number.readFloat? field with
      | some x => .float x
      | none => .text (String.ofList field)

/-- A raw field as a text; a blank one is missing. -/
def verbatim (raw : List Char) : Cell :=
  let field := Text.trim raw
  if field.isEmpty then .missing else .text (String.ofList field)

/-- The written form of a cell; nothing for a missing one. -/
def written : Cell → List Char
  | .int i => Number.intText i
  | .float x => Number.plainText x
  | .text s => s.toList
  | .missing => []

/-- The float nearest to an integer. -/
def floatOfInt (i : Int) : Float :=
  Number.ofMagnitude (i < 0) (Number.nearestBits i.natAbs 1)

/-- The numeric view of a cell. -/
def toFloat? : Cell → Option Float
  | .int i => some (floatOfInt i)
  | .float x => some x
  | .text s => Number.readFloat? s.toList
  | .missing => none

/-- The count that a float stands for: a whole number that is not negative, at most the largest of
64 bits. -/
def countOfFloat? (x : Float) : Option Nat :=
  match Number.wholeMagnitude? x with
  | some n => if Number.isNegative x && n ≠ 0 then none else some (min n (Number.word64 - 1))
  | none => none

/-- The view of a cell as a count below `2 ^ 64`. -/
def toCount? : Cell → Option Nat
  | .int i => if 0 ≤ i then some i.toNat else none
  | .float x => countOfFloat? x
  | .text s => Number.readNat? Number.word64 s.toList
  | .missing => none

/-- The text of a text cell. -/
def toText? : Cell → Option String
  | .text s => some s
  | _ => none

/-- Whether a cell is missing. -/
def isMissing : Cell → Bool
  | .missing => true
  | _ => false

end Cell

end CircuitBench
