import CircuitBench.Toml.Value
import CircuitBench.Toml.Text

/-!
# TOML documents

A document is a sequence of headers and of keys with values, and `readDocument?` is the table that a
whole text stands for. Tables come about in three ways, which decide what may be added to them later
(`Origin`): by a header, as a part of a longer header, or by points in a key. No key is given twice.
-/

namespace CircuitBench.Toml

/-- How a table came about. -/
inductive Origin where
  /-- By a header of its own. -/
  | header
  /-- As a part of a longer header. -/
  | implied
  /-- By points in a key. -/
  | dotted
deriving DecidableEq, Repr

/-- What a name in a table under construction stands for. -/
inductive Item where
  | value (v : Value)
  | table (origin : Origin) (entries : List (String × Item))
  | tables (tables : List (List (String × Item)))

/-- The names of a table under construction. -/
abbrev Entries : Type := List (String × Item)

/-- The entries with the item of a name replaced or added. -/
def put (name : String) (item : Item) : Entries → Entries
  | [] => [(name, item)]
  | (n, i) :: rest => if n = name then (n, item) :: rest else (n, i) :: put name item rest

/-- Entries changed at a path. Tables on the way that are missing are made, as dotted ones or
implied ones. A dotted path does not lead through a table with a header of its own; in a list of
tables it is the last that counts; a value is no table. -/
def updateAt (dotted : Bool) (change : Origin → Entries → Option Entries) :
    List String → Origin → Entries → Option Entries
  | [], origin, entries => change origin entries
  | name :: path, _, entries =>
    match entries.lookup name with
    | none => do
      let origin := if dotted then Origin.dotted else .implied
      let inner ← updateAt dotted change path origin []
      return put name (.table origin inner) entries
    | some (.value _) => none
    | some (.table origin inner) =>
      if dotted && origin = .header then none
      else do
        let inner ← updateAt dotted change path origin inner
        return put name (.table origin inner) entries
    | some (.tables tables) => do
      let inner ← updateAt dotted change path .header (tables.getLast?.getD [])
      return put name (.tables (tables.dropLast ++ [inner])) entries

/-- Entries with a new value at a key. The last name is new, and a key with points ends in a table
that was made by points. -/
def addKey (names : List String) (v : Value) (entries : Entries) : Option Entries :=
  let path := names.dropLast
  let name := names.getLastD ""
  updateAt true (fun origin inner =>
    if path.isEmpty = (origin = .dotted) then none
    else if (inner.lookup name).isSome then none
    else some (put name (.value v) inner)) path .header entries

/-- Entries with the table of a header. A table that was only implied so far is taken over. -/
def addHeader (names : List String) (entries : Entries) : Option Entries :=
  let name := names.getLastD ""
  updateAt false (fun _ inner =>
    match inner.lookup name with
    | none => some (put name (.table .header []) inner)
    | some (.table .implied found) => some (put name (.table .header found) inner)
    | some _ => none) names.dropLast .header entries

/-- Entries with one more table in the list of a header. -/
def addArrayHeader (names : List String) (entries : Entries) : Option Entries :=
  let name := names.getLastD ""
  updateAt false (fun _ inner =>
    match inner.lookup name with
    | none => some (put name (.tables [[]]) inner)
    | some (.tables found) => some (put name (.tables (found ++ [[]])) inner)
    | some _ => none) names.dropLast .header entries

/-- Entries with a new value at a key below a header. -/
def addKeyBelow (header names : List String) (v : Value) (entries : Entries) : Option Entries :=
  updateAt false (fun _ inner => addKey names v inner) header .header entries

mutual

/-- The finished value of an item. -/
def Item.finish : Item → Value
  | .value v => v
  | .table _ entries => .table (finishEntries entries)
  | .tables tables => .array (finishTables tables)

/-- The finished entries of a table. -/
def finishEntries : List (String × Item) → List (String × Value)
  | [] => []
  | (name, item) :: rest => (name, item.finish) :: finishEntries rest

/-- The finished tables of a list. -/
def finishTables : List (List (String × Item)) → List Value
  | [] => []
  | entries :: rest => .table (finishEntries entries) :: finishTables rest

end

/-! ### Values -/

/-- A character of a number, date or time. -/
def isScalarChar (c : Char) : Bool :=
  c.isAlphanum || c == '+' || c == '-' || c == '_' || c == '.' || c == ':'

/-- The text of a number, date or time; a time may follow a date behind a space. -/
def spanScalar (cs : List Char) : List Char × List Char :=
  let text := cs.takeWhile isScalarChar
  let rest := cs.dropWhile isScalarChar
  match rest with
  | ' ' :: c :: behind =>
    if c.isDigit && (dropDate? text == some []) then
      (text ++ ' ' :: (c :: behind).takeWhile isScalarChar, (c :: behind).dropWhile isScalarChar)
    else (text, rest)
  | _ => (text, rest)

/-- The text behind a word. -/
def dropWord? (word cs : List Char) : Option (List Char) :=
  if word.isPrefixOf cs then some (cs.drop word.length) else none

/-- A string, a truth value, a number, a date or a time. -/
def readSimple? (cs : List Char) : Option (Value × List Char) :=
  match cs with
  | '"' :: _ => (readString? cs).map fun (s, rest) => (.string s, rest)
  | '\'' :: _ => (readString? cs).map fun (s, rest) => (.string s, rest)
  | 't' :: _ => (dropWord? "true".toList cs).map (.boolean true, ·)
  | 'f' :: _ => (dropWord? "false".toList cs).map (.boolean false, ·)
  | _ =>
    let (text, rest) := spanScalar cs
    (readScalar? text).map (·, rest)

/-- The items of a list up to its closing bracket. Each turn uses up a character. -/
def readItems? (item : Reader Value) : Nat → Reader (List Value)
  | 0, _ => none
  | fuel + 1, cs =>
    match skipLayout (cs.length + 1) cs with
    | ']' :: rest => some ([], rest)
    | start => do
      let (v, rest) ← item start
      match skipLayout (rest.length + 1) rest with
      | ',' :: rest =>
        let (others, rest) ← readItems? item fuel rest
        return (v :: others, rest)
      | ']' :: rest => return ([v], rest)
      | _ => none

/-- A key with its value. -/
def readPair? (item : Reader Value) (cs : List Char) :
    Option ((List String × Value) × List Char) := do
  let (names, rest) ← readKey? cs
  match rest with
  | '=' :: rest =>
    let (v, rest) ← item (skipBlanks rest)
    return ((names, v), rest)
  | _ => none

/-- The pairs of a table in curly brackets, of which there is at least one, up to the bracket. -/
def readPairs? (item : Reader Value) : Nat → Entries → Reader Entries
  | 0, _, _ => none
  | fuel + 1, entries, cs => do
    let ((names, v), rest) ← readPair? item cs
    let entries ← addKey names v entries
    match skipBlanks rest with
    | ',' :: rest => readPairs? item fuel entries rest
    | '\x7d' :: rest => return (entries, rest)
    | _ => none

/-- A table in curly brackets, behind the first of them. -/
def readInline? (item : Reader Value) (cs : List Char) : Option (Value × List Char) :=
  match skipBlanks cs with
  | '\x7d' :: rest => some (.table [], rest)
  | start => do
    let (entries, rest) ← readPairs? item (cs.length + 1) [] start
    return (.table (finishEntries entries), rest)

/-- A value with at most the given number of containers around it. -/
def readValue? : Nat → Reader Value
  | 0, cs => readSimple? cs
  | level + 1, cs =>
    match cs with
    | '[' :: rest =>
      if level = 0 then none
      else (readItems? (readValue? level) (rest.length + 1) rest).map fun (vs, rest) =>
        (.array vs, rest)
    | '\x7b' :: rest => if level = 0 then none else readInline? (readValue? level) rest
    | _ => readSimple? cs

/-! ### Statements -/

/-- The names of a header, and the text behind the given brackets. -/
def readHeader? (closing : List Char) (cs : List Char) : Option (List String × List Char) := do
  let (names, rest) ← readKey? cs
  return (names, ← dropWord? closing rest)

/-- A table under construction and the header that keys stand below. -/
structure Builder where
  entries : Entries
  header : List String

/-- The table after one line that holds a statement, and the text behind that line. -/
def readStatement? (b : Builder) (cs : List Char) : Option (Builder × List Char) := do
  match cs with
  | '[' :: '[' :: rest =>
    let (names, rest) ← readHeader? [']', ']'] rest
    return (⟨← addArrayHeader names b.entries, names⟩, ← endLine? rest)
  | '[' :: rest =>
    let (names, rest) ← readHeader? [']'] rest
    return (⟨← addHeader names b.entries, names⟩, ← endLine? rest)
  | _ =>
    let ((names, v), rest) ← readPair? (readValue? nestingLimit) cs
    return (⟨← addKeyBelow b.header names v b.entries, b.header⟩, ← endLine? rest)

/-- The table after all statements of a text. Each turn uses up a character. -/
def readStatements? : Nat → Builder → List Char → Option Builder
  | 0, _, _ => none
  | fuel + 1, b, cs =>
    match skipLayout (cs.length + 1) cs with
    | [] => some b
    | start => do
      let (b, rest) ← readStatement? b start
      readStatements? fuel b rest

/-- The table that a whole text stands for. A mark of byte order in front is no part of it. -/
def readDocument? (cs : List Char) : Option (List (String × Value)) := do
  let cs := match cs with
    | '\uFEFF' :: rest => rest
    | _ => cs
  let b ← readStatements? (cs.length + 1) ⟨[], []⟩ cs
  return finishEntries b.entries

end CircuitBench.Toml
