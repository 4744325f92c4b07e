import CircuitBench.Text.Lines
import CircuitBench.Number.Digits

/-!
# Printing TOML

A string takes the first `StringForm` in which it can stand without escapes: double quotes, single
quotes, three double quotes, three single quotes. If there is none, it is escaped. Texts of several
lines are quoted three times and start on a line of their own. Lists of more than one item have a
line for each.
-/

namespace CircuitBench.Toml

/-- The form of a printed string. -/
inductive StringForm where
  /-- In double quotes, with escapes. -/
  | basic
  /-- In single quotes. -/
  | literal
  /-- In three double quotes, with escapes. -/
  | basicBlock
  /-- In three single quotes. -/
  | literalBlock
deriving DecidableEq, Repr

/-- The length of the longest run of a quote; `run` is the length of the current one. -/
def longestRun (quote : Char) (run : Nat) : List Char → Nat
  | [] => run
  | c :: rest =>
    if c = quote then longestRun quote (run + 1) rest else max run (longestRun quote 0 rest)

/-- A control character that cannot stand in a string as it is. -/
def needsEscape (c : Char) : Bool :=
  (c.toNat < 0x20 && c != '\t' && c != '\n') || c.toNat == 0x7F

/-- The most quotes in a row that can stand in a string that is quoted three times. -/
def quotesInBlock : Nat := 2

/-- Whether a text can stand in a form without escapes. A tab does not count, since double quotes
write it as an escape and single quotes as it is. -/
def StringForm.fits (cs : List Char) : StringForm → Bool
  | .basic => !cs.any (fun c => needsEscape c || c == '\\' || c == '"' || c == '\n')
  | .literal => !cs.any (fun c => needsEscape c || c == '\'' || c == '\n')
  | .basicBlock =>
    !cs.any (fun c => needsEscape c || c == '\\') && longestRun '"' 0 cs ≤ quotesInBlock
  | .literalBlock => !cs.any needsEscape && longestRun '\'' 0 cs ≤ quotesInBlock

/-- The forms of strings, the preferred ones first. -/
def StringForm.preference : List StringForm :=
  [.basic, .literal, .basicBlock, .literalBlock]

/-- The form of a text that does not do without escapes. -/
def escapedForm (cs : List Char) : StringForm :=
  if cs.contains '\n' then .basicBlock else .basic

/-- The form of a text. -/
def formOf (cs : List Char) : StringForm :=
  (StringForm.preference.find? (StringForm.fits cs)).getD (escapedForm cs)

/-- Four hexadecimal digits in upper case. -/
def hexFour (n : Nat) : List Char :=
  let digits := (Nat.toDigits 16 n).map Char.toUpper
  List.replicate (4 - digits.length) '0' ++ digits

/-- The printed form of a character other than a quote in double quotes. -/
def escape (block : Bool) (c : Char) : List Char :=
  if c = '\x08' then ['\\', 'b']
  else if c = '\t' then ['\\', 't']
  else if c = '\n' then if block then ['\n'] else ['\\', 'n']
  else if c = '\x0c' then ['\\', 'f']
  else if c = '\r' then ['\\', 'r']
  else if c = '\\' then ['\\', '\\']
  else if needsEscape c then '\\' :: 'u' :: hexFour c.toNat
  else [c]

/-- The printed form of a text in double quotes, behind a run of quotes. A block keeps up to two
quotes in a row as they are. -/
def escapeText (block : Bool) (run : Nat) : List Char → List Char
  | [] => []
  | c :: rest =>
    if c = '"' then
      if block && run < quotesInBlock then '"' :: escapeText block (run + 1) rest
      else '\\' :: '"' :: escapeText block 0 rest
    else escape block c ++ escapeText block 0 rest

/-- A text between two copies of a mark. -/
def enclose (mark : List Char) (cs : List Char) : List Char :=
  mark ++ cs ++ mark

/-- A text that starts on a line of its own if it has several lines. -/
def onOwnLines (cs printed : List Char) : List Char :=
  if cs.contains '\n' then '\n' :: printed else printed

/-- A printed string. -/
def stringText (s : String) : List Char :=
  let cs := s.toList
  match formOf cs with
  | .basic => enclose ['"'] (escapeText false 0 cs)
  | .literal => enclose ['\''] cs
  | .basicBlock => enclose ['"', '"', '"'] (onOwnLines cs (escapeText true 0 cs))
  | .literalBlock => enclose ['\'', '\'', '\''] (onOwnLines cs cs)

/-- A printed list of strings. -/
def listText (items : List String) : List Char :=
  match items with
  | [] => ['[', ']']
  | [s] => '[' :: (stringText s ++ [']'])
  | _ => '[' :: (items.flatMap (fun s => "\n    ".toList ++ stringText s ++ [',']) ++ ['\n', ']'])

/-- A line with a key and its printed value. -/
def entryLine (key : String) (value : List Char) : List Char :=
  key.toList ++ " = ".toList ++ value ++ ['\n']

/-- A table with its header. -/
def sectionText (name : String) (entries : List (List Char)) : List Char :=
  '[' :: (name.toList ++ [']', '\n'] ++ entries.flatten)

/-- Tables with an empty line between them. -/
def documentText (sections : List (List Char)) : List Char :=
  Text.join ['\n'] sections

end CircuitBench.Toml
