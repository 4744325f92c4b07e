import CircuitBench.Text.Lines

/-!
# OpenQASM statements

A program text is cut into statements at its semicolons. Comments run from two slashes to the end of
their line and are cut off line by line (`cutComment`). Every character of the code that is left is
a `Mark` with its line, so that every `Statement` knows the line on which it starts.
-/

namespace CircuitBench.Qasm

/-- A line without its comment. -/
def cutComment : List Char → List Char
  | '/' :: '/' :: _ => []
  | c :: rest => c :: cutComment rest
  | [] => []

/-- A character of the code and the number of its line. -/
structure Mark where
  char : Char
  line : Nat
deriving DecidableEq, Repr

/-- The code of one line with its number. A blank stands for the end of a line that has code, so
that words on different lines stay apart. -/
def lineMarks (number : Nat) (line : List Char) : List Mark :=
  let code := cutComment line
  if code.isEmpty then [] else (code ++ [' ']).map (⟨·, number⟩)

/-- The code of the lines numbered from `number`. -/
def marksFrom (number : Nat) : List (List Char) → List Mark
  | [] => []
  | line :: others => lineMarks number line ++ marksFrom (number + 1) others

/-- The code of a text, lines counted from one. -/
def marks (source : List Char) : List Mark :=
  marksFrom 1 (Text.lines source)

/-- A statement: its text without the blanks around it, the line on which it starts, and whether a
semicolon closes it. -/
structure Statement where
  line : Nat
  text : List Char
  terminated : Bool
deriving DecidableEq, Repr

/-- The statement that a run of code between semicolons makes, if it is not blank. -/
def Statement.ofMarks? (terminated : Bool) (run : List Mark) : Option Statement :=
  match run.dropWhile (Text.isBlank ·.char) with
  | [] => none
  | first :: rest =>
    some ⟨first.line, Text.trimEnd ((first :: rest).map Mark.char), terminated⟩

/-- The runs of code that a semicolon closes, and what stands after the last semicolon. -/
def splitRuns : List Mark → List (List Mark) × List Mark
  | [] => ([], [])
  | m :: rest =>
    let (closed, last) := splitRuns rest
    if m.char = ';' then ([] :: closed, last)
    else match closed with
      | [] => ([], m :: last)
      | run :: others => ((m :: run) :: others, last)

/-- The statements of code; the text after the last semicolon is one that is not closed. -/
def statementsOf (code : List Mark) : List Statement :=
  let (closed, last) := splitRuns code
  closed.filterMap (Statement.ofMarks? true) ++ (Statement.ofMarks? false last).toList

/-- The statements of a program text. -/
def statements (source : List Char) : List Statement :=
  statementsOf (marks source)

end CircuitBench.Qasm
