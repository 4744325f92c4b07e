import CircuitBench.Text.Lines
import CircuitBench.Text.LowerCase

/-!
# Paths

Paths are texts with names between slashes. Repeated slashes and single dots inside a path do not
count; two dots are kept. `fileName?`, `extension?` and `stem?` are the last name and its parts,
`parent?` is the path without it, and `join` a path below another.
-/

namespace CircuitBench.Path

/-- Whether a path starts at the root. -/
def isAbsolute (path : List Char) : Bool :=
  path.head? == some '/'

/-- The pieces of a path between slashes. -/
def pieces (path : List Char) : List (List Char) :=
  Text.splitOnChar '/' path

/-- A piece that does not count. -/
def isIdle (piece : List Char) : Bool :=
  piece.isEmpty || piece == ['.']

/-- The names on a path, without the root; a dot counts only at the start. -/
def names (path : List Char) : List (List Char) :=
  match pieces path with
  | [] => []
  | first :: others => (if first.isEmpty then [] else [first]) ++ others.filter (!isIdle ·)

/-- The last name of a path, if it is a proper name. -/
def fileName? (path : List Char) : Option (List Char) :=
  match (names path).getLast? with
  | some name => if name == ['.'] || name == ['.', '.'] then none else some name
  | none => none

/-- A name before and after its last dot; a dot in front does not count. -/
def splitName (name : List Char) : List Char × Option (List Char) :=
  let reversed := name.reverse
  match reversed.dropWhile (· != '.') with
  | [] => (name, none)
  | _ :: stem =>
    if stem.isEmpty then (name, none)
    else (stem.reverse, some (reversed.takeWhile (· != '.')).reverse)

/-- What stands behind the last dot of the last name. -/
def extension? (path : List Char) : Option (List Char) :=
  (fileName? path).bind fun name => (splitName name).2

/-- The last name without its extension. -/
def stem? (path : List Char) : Option (List Char) :=
  (fileName? path).map fun name => (splitName name).1

/-- Pieces in backward order without those in front that do not count; the very first piece of a
path always counts. -/
def dropIdle : List (List Char) → List (List Char)
  | [] => []
  | [first] => [first]
  | piece :: others => if isIdle piece then dropIdle others else piece :: others

/-- The path without its last name; nothing for the root and the empty path. -/
def parent? (path : List Char) : Option (List Char) :=
  match dropIdle (pieces path).reverse with
  | [] => none
  | [first] => if first.isEmpty then none else some []
  | _ :: others =>
    match dropIdle others with
    | [[]] => some ['/']
    | kept => some (Text.join ['/'] kept.reverse)

/-- A path below another; an absolute one stands for itself. -/
def join (base path : List Char) : List Char :=
  if isAbsolute path then path
  else if base.isEmpty || base.getLast? == some '/' then base ++ path
  else base ++ '/' :: path

/-- The extension of a path in lower case. -/
def lowerExtension? (path : List Char) : Option (List Char) :=
  (extension? path).map Text.lowerCase

end CircuitBench.Path
