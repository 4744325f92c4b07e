import CircuitBench.Text.Blank

/-!
# Lines and pieces

Cutting a text into lines and at separators (`lines`, `splitOnChar`), and putting pieces together
again (`join`). A line feed ends a line, together with a carriage return in front.
-/

namespace CircuitBench.Text

/-- The lines of a text. A line feed ends a line and so does a carriage return with a line feed; a
text that ends with a line has no empty line after it. -/
def lines : List Char → List (List Char)
  | [] => []
  | '\n' :: rest => [] :: lines rest
  | '\r' :: '\n' :: rest => [] :: lines rest
  | c :: rest =>
    match lines rest with
    | [] => [[c]]
    | first :: others => (c :: first) :: others

/-- The text before and after the first occurrence of `sep`. -/
def splitAt? (sep : List Char) : List Char → Option (List Char × List Char)
  | [] => if sep.isEmpty then some ([], []) else none
  | c :: rest =>
    if sep.isPrefixOf (c :: rest) then some ([], (c :: rest).drop sep.length)
    else (splitAt? sep rest).map fun (before, after) => (c :: before, after)

/-- The pieces between the separators; one more than there are separators. -/
def splitOnChar (sep : Char) : List Char → List (List Char)
  | [] => [[]]
  | c :: rest =>
    if c = sep then [] :: splitOnChar sep rest
    else match splitOnChar sep rest with
      | [] => [[c]]
      | first :: others => (c :: first) :: others

/-- Pieces with a separator between neighbours. -/
def join (sep : List Char) (pieces : List (List Char)) : List Char :=
  (pieces.intersperse sep).flatten

/-- There is always a first piece. -/
theorem splitOnChar_ne_nil (sep : Char) (cs : List Char) : splitOnChar sep cs ≠ [] := by
  cases cs with
  | nil => simp [splitOnChar]
  | cons c rest =>
    unfold splitOnChar
    split
    · simp
    · split <;> simp

end CircuitBench.Text
