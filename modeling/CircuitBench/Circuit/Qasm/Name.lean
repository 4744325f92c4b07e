import CircuitBench.Text.Lines
import CircuitBench.Circuit.Expression

/-!
# Patterns of OpenQASM statements

Names, indexed names, register declarations and gate applications, each taken apart from its whole
text. A name is a letter or underscore, then letters, digits and underscores (`isIdentifier`); the
other patterns are `readIndexed?`, `readDeclaration?` and `readApplication?`.
-/

namespace CircuitBench.Qasm

open Expression (isNameStart isNameChar)

/-- A letter or underscore, then letters, digits and underscores. -/
def isIdentifier : List Char → Bool
  | [] => false
  | c :: rest => isNameStart c && rest.all isNameChar

/-- The longest identifier in front of a text, and the rest. -/
def spanIdentifier? : List Char → Option (List Char × List Char)
  | [] => none
  | c :: rest =>
    if isNameStart c then some (c :: rest.takeWhile isNameChar, rest.dropWhile isNameChar) else none

/-- The digits of an index in square brackets that fill a text. -/
def readIndex? : List Char → Option (List Char)
  | '[' :: rest =>
    let inner := Text.trimStart rest
    let digits := inner.takeWhile Char.isDigit
    if digits.isEmpty then none
    else match Text.trimStart (inner.dropWhile Char.isDigit) with
      | [']'] => some digits
      | _ => none
  | _ => none

/-- A name, and the digits of its index if there is one. -/
def readIndexed? (cs : List Char) : Option (List Char × Option (List Char)) := do
  let (name, rest) ← spanIdentifier? cs
  match Text.trimStart rest with
  | [] => return (name, none)
  | rest => return (name, some (← readIndex? rest))

/-- The name and the digits of the size that stand, after a blank, behind a declaration's
keyword. -/
def readDeclaration? : List Char → Option (List Char × List Char)
  | [] => none
  | c :: rest =>
    if Text.isBlank c then do
      let (name, rest) ← spanIdentifier? (Text.trimStart rest)
      return (name, ← readIndex? (Text.trimStart rest))
    else none

/-- The text before and after the last closing bracket. -/
def splitAtLastClose? (cs : List Char) : Option (List Char × List Char) :=
  let reversed := cs.reverse
  match reversed.dropWhile (· != ')') with
  | [] => none
  | _ :: inner => some (inner.reverse, (reversed.takeWhile (· != ')')).reverse)

/-- A round bracket. -/
def isRoundBracket (c : Char) : Bool :=
  c == '(' || c == ')'

/-- The parts of a gate application. -/
structure Application where
  gate : List Char
  /-- What stands between the first and the last round bracket. -/
  params : Option (List Char)
  operands : List Char
deriving DecidableEq, Repr

/-- A gate's name, parameters in round brackets if there are any, and operands without brackets. -/
def readApplication? (cs : List Char) : Option Application := do
  let (gate, rest) ← spanIdentifier? cs
  match Text.trimStart rest with
  | '(' :: body =>
    let (params, operands) ← splitAtLastClose? body
    if operands.any isRoundBracket then none else some ⟨gate, some params, operands⟩
  | operands => if operands.any isRoundBracket then none else some ⟨gate, none, operands⟩

/-- The first word of a statement: up to a blank or an opening round or curly bracket. -/
def firstWord (cs : List Char) : List Char :=
  cs.takeWhile fun c => !(Text.isBlank c || c == '(' || c == '\x7b')

end CircuitBench.Qasm
