import CircuitBench.Json.Token

/-!
# TOML texts

Blanks, comments, keys and the four kinds of strings. A reader takes something from the front of a
text and leaves the rest; a text that is no TOML gives nothing. `skipLayout` passes over what stands
between values, `readString?` takes a string of any kind, and `readKey?` a key of one or several
names.
-/

namespace CircuitBench.Toml

/-- What reading from the front of a text gives. -/
abbrev Reader (α : Type) : Type := List Char → Option (α × List Char)

/-- A blank inside a line. -/
def isBlank (c : Char) : Bool :=
  c == ' ' || c == '\t'

/-- The text behind the blanks in front. -/
def skipBlanks (cs : List Char) : List Char :=
  cs.dropWhile isBlank

/-- A control character other than a tab; none may stand in a text as it is. -/
def isControl (c : Char) : Bool :=
  (c.toNat < 0x20 && c != '\t') || c.toNat == 0x7F

/-- The text behind the end of a line, if it is in front. -/
def dropNewline? : List Char → Option (List Char)
  | '\n' :: rest => some rest
  | '\r' :: '\n' :: rest => some rest
  | _ => none

/-- The text behind a comment, if there is one; it ends before the end of its line. -/
def skipComment : List Char → List Char
  | '#' :: rest => rest.dropWhile (!isControl ·)
  | cs => cs

/-- The text behind blanks, a comment, and the end of a line or of the text. -/
def endLine? (cs : List Char) : Option (List Char) :=
  match skipComment (skipBlanks cs) with
  | [] => some []
  | rest => dropNewline? rest

/-- The text behind blanks, comments and ends of lines; each turn uses up a character. -/
def skipLayout : Nat → List Char → List Char
  | 0, cs => cs
  | fuel + 1, cs =>
    let rest := skipComment (skipBlanks cs)
    match dropNewline? rest with
    | some behind => skipLayout fuel behind
    | none => rest

/-! ### Strings -/

/-- The character that a letter after a backslash stands for. -/
def escaped? : Char → Option Char
  | 'b' => some '\x08'
  | 't' => some '\t'
  | 'n' => some '\n'
  | 'f' => some '\x0c'
  | 'r' => some '\r'
  | '"' => some '"'
  | '\\' => some '\\'
  | _ => none

/-- The character that a number of hexadecimal digits denotes. -/
def readCode? (count : Nat) (cs : List Char) : Option (Char × List Char) := do
  let digits := cs.take count
  if digits.length ≠ count then none
  else
    let value ← digits.foldlM (fun n c => (Json.hexValue? c).map (16 * n + ·)) 0
    if value < 0xD800 ∨ (0xDFFF < value ∧ value < 0x110000) then
      some (Char.ofNat value, cs.drop count)
    else none

/-- The character that an escape stands for, behind its backslash. -/
def readEscape? : List Char → Option (Char × List Char)
  | 'u' :: rest => readCode? 4 rest
  | 'U' :: rest => readCode? 8 rest
  | c :: rest => (escaped? c).map (·, rest)
  | [] => none

/-- A character in front of what was read behind it. -/
def consRead (c : Char) (r : List Char × List Char) : List Char × List Char :=
  (c :: r.1, r.2)

/-- The characters of a quoted line up to its closing quote. -/
def readBasic? : Nat → Reader (List Char)
  | 0, _ => none
  | _ + 1, [] => none
  | _ + 1, '"' :: rest => some ([], rest)
  | fuel + 1, '\\' :: rest => do
    let (c, rest) ← readEscape? rest
    (readBasic? fuel rest).map (consRead c)
  | fuel + 1, c :: rest => if isControl c then none else (readBasic? fuel rest).map (consRead c)

/-- The characters of a line in single quotes. -/
def readLiteral? : Reader (List Char)
  | [] => none
  | c :: rest =>
    if c = '\'' then some ([], rest)
    else if isControl c then none
    else (readLiteral? rest).map (consRead c)

/-- The end of a block that is quoted three times, at a run of quotes: three of them close it, and
up to two in front of these belong to it. A shorter run does not close it. -/
def closeBlock? (quote : Char) (cs : List Char) : Option (List Char × List Char) :=
  let run := min (cs.takeWhile (· == quote)).length 5
  if run < 3 then none else some (List.replicate (run - 3) quote, cs.drop run)

/-- The text behind the blanks and ends of lines in front. -/
def skipBlankLines : List Char → List Char
  | '\r' :: '\n' :: rest => skipBlankLines rest
  | c :: rest => if isBlank c || c == '\n' then skipBlankLines rest else c :: rest
  | [] => []

/-- The text behind a backslash at the end of a line, with the blanks and empty lines that
follow. -/
def dropContinuation? (cs : List Char) : Option (List Char) := do
  let behind ← dropNewline? (skipBlanks cs)
  return skipBlankLines behind

/-- The characters of a block in double quotes. -/
def readBasicBlock? : Nat → Reader (List Char)
  | 0, _ => none
  | _ + 1, [] => none
  | fuel + 1, c :: rest =>
    if c = '"' then
      match closeBlock? '"' (c :: rest) with
      | some closed => some closed
      | none => (readBasicBlock? fuel rest).map (consRead c)
    else if c = '\\' then
      match dropContinuation? rest with
      | some behind => readBasicBlock? fuel behind
      | none => do
        let (escaped, rest) ← readEscape? rest
        (readBasicBlock? fuel rest).map (consRead escaped)
    else match dropNewline? (c :: rest) with
      | some behind => (readBasicBlock? fuel behind).map (consRead '\n')
      | none => if isControl c then none else (readBasicBlock? fuel rest).map (consRead c)

/-- The characters of a block in single quotes. -/
def readLiteralBlock? : Nat → Reader (List Char)
  | 0, _ => none
  | _ + 1, [] => none
  | fuel + 1, c :: rest =>
    if c = '\'' then
      match closeBlock? '\'' (c :: rest) with
      | some closed => some closed
      | none => (readLiteralBlock? fuel rest).map (consRead c)
    else match dropNewline? (c :: rest) with
      | some behind => (readLiteralBlock? fuel behind).map (consRead '\n')
      | none => if isControl c then none else (readLiteralBlock? fuel rest).map (consRead c)

/-- A text without the end of a line in front. -/
def trimNewline (cs : List Char) : List Char :=
  (dropNewline? cs).getD cs

/-- A quoted line. -/
def readLine? : Reader String
  | '"' :: rest => (readBasic? (rest.length + 1) rest).map fun (s, rest) => (String.ofList s, rest)
  | '\'' :: rest => (readLiteral? rest).map fun (s, rest) => (String.ofList s, rest)
  | _ => none

/-- A string of any kind. -/
def readString? : Reader String
  | '"' :: '"' :: '"' :: rest =>
    (readBasicBlock? (rest.length + 1) (trimNewline rest)).map fun (s, rest) =>
    (String.ofList s, rest)
  | '\'' :: '\'' :: '\'' :: rest =>
    (readLiteralBlock? (rest.length + 1) (trimNewline rest)).map fun (s, rest) =>
      (String.ofList s, rest)
  | cs => readLine? cs

/-! ### Keys -/

/-- A character of a name without quotes. -/
def isBareChar (c : Char) : Bool :=
  c.isAlphanum || c == '-' || c == '_'

/-- One name of a key. -/
def readName? (cs : List Char) : Option (String × List Char) :=
  match cs with
  | '"' :: _ => readLine? cs
  | '\'' :: _ => readLine? cs
  | _ =>
    let name := cs.takeWhile isBareChar
    if name.isEmpty then none else some (String.ofList name, cs.dropWhile isBareChar)

/-- The names of a key, with points and blanks between them. Each turn uses up a character. -/
def readNames? : Nat → Reader (List String)
  | 0, _ => none
  | fuel + 1, cs => do
    let (name, rest) ← readName? (skipBlanks cs)
    match skipBlanks rest with
    | '.' :: rest =>
      let (others, rest) ← readNames? fuel rest
      return (name :: others, rest)
    | rest => return ([name], rest)

/-- The most names of a key, and the most containers around a value, less one. -/
def nestingLimit : Nat := 80

/-- A key of one or several names, fewer than the limit. -/
def readKey? (cs : List Char) : Option (List String × List Char) := do
  let (names, rest) ← readNames? (cs.length + 1) cs
  if names.length < nestingLimit then some (names, rest) else none

end CircuitBench.Toml
