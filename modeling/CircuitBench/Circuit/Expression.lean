import CircuitBench.Text.Blank
import CircuitBench.Number.Reading

/-!
# Angle expressions

Arithmetic over decimal numbers and the constant `pi`, as gate parameters use it:

    expression := term (('+' | '-') term)*
    term       := unary (('*' | '/') unary)*
    unary      := '-' unary | '+' unary | atom
    atom       := number | 'pi' | '(' expression ')'

Blanks may stand between tokens. Groups and signs may be nested to a fixed depth. `Expression.read`
gives the tree of a whole text, signs and groups included, or the first fault met from the left, and
`evaluate` the value of the tree.
-/

namespace CircuitBench

/-- The four operators. -/
inductive Operator where
  | add
  | subtract
  | multiply
  | divide
deriving DecidableEq, Repr

/-- The tree of an expression. -/
inductive Expression where
  | number (value : Float)
  | pi
  | negative (operand : Expression)
  | positive (operand : Expression)
  | group (inner : Expression)
  | binary (operator : Operator) (left right : Expression)
deriving Repr

/-- Why a text is not an expression. -/
inductive ExpressionError where
  | unexpectedChar (c : Char)
  | unexpectedEnd
  | invalidNumber (text : String)
  | unknownIdentifier (name : String)
  | trailing
  | tooDeep
deriving DecidableEq, Repr

/-- The wording of a fault. -/
def ExpressionError.message : ExpressionError → String
  | .unexpectedChar c => s!"unexpected character '{c}' in expression"
  | .unexpectedEnd => "unexpected end of expression"
  | .invalidNumber text => s!"invalid number '{text}'"
  | .unknownIdentifier name => s!"unknown identifier '{name}'"
  | .trailing => "trailing input after expression"
  | .tooDeep => "expression nested too deeply"

/-- The float operation of an operator. -/
def Operator.apply : Operator → Float → Float → Float
  | .add, a, b => a + b
  | .subtract, a, b => a - b
  | .multiply, a, b => a * b
  | .divide, a, b => a / b

namespace Expression

/-- The value of a tree. -/
def value : Expression → Float
  | .number x => x
  | .pi => Number.pi
  | .negative e => -e.value
  | .positive e => e.value
  | .group e => e.value
  | .binary op l r => op.apply l.value r.value

/-- The largest number of groups and signs around one token. -/
def depth : Expression → Nat
  | .number _ => 0
  | .pi => 0
  | .negative e => e.depth + 1
  | .positive e => e.depth + 1
  | .group e => e.depth + 1
  | .binary _ l r => max l.depth r.depth

/-- The largest depth that is read. -/
def maxDepth : Nat := 256

/-- A reader takes a tree from the front of a text and leaves the rest. -/
abbrev Reader : Type := List Char → Except ExpressionError (Expression × List Char)

/-- The operators that bind loosely. -/
def sumOperator? : Char → Option Operator
  | '+' => some .add
  | '-' => some .subtract
  | _ => none

/-- The operators that bind tightly. -/
def productOperator? : Char → Option Operator
  | '*' => some .multiply
  | '/' => some .divide
  | _ => none

/-- Operators and operands after `left`, grouped to the left. Each turn uses up a character, so the
text's length is fuel enough. -/
def chain (operator? : Char → Option Operator) (operand : Reader) : Nat → Expression → Reader
  | 0, left, cs => .ok (left, cs)
  | fuel + 1, left, cs =>
    match Text.trimStart cs with
    | [] => .ok (left, [])
    | c :: rest =>
      match operator? c with
      | none => .ok (left, c :: rest)
      | some op => do
        let (right, rest) ← operand rest
        chain operator? operand fuel (.binary op left right) rest

/-- One operand or several with operators between them. -/
def readChain (operator? : Char → Option Operator) (operand : Reader) : Reader := fun cs => do
  let (first, rest) ← operand cs
  chain operator? operand rest.length first rest

/-- Sums of products of what `unary` reads. -/
def readSum (unary : Reader) : Reader :=
  readChain sumOperator? (readChain productOperator? unary)

/-- A character that a number may start with. -/
def isNumberStart (c : Char) : Bool :=
  c.isDigit || c == '.'

/-- A letter or the underscore. -/
def isNameStart (c : Char) : Bool :=
  c.isAlpha || c == '_'

/-- A letter, a digit or the underscore. -/
def isNameChar (c : Char) : Bool :=
  c.isAlphanum || c == '_'

/-- The sign that may follow an exponent mark. -/
def spanSign : List Char → List Char × List Char
  | '+' :: rest => (['+'], rest)
  | '-' :: rest => (['-'], rest)
  | cs => ([], cs)

/-- The longest front of digits and points, with an exponent mark, a sign and digits if they
follow. -/
def spanNumber (cs : List Char) : List Char × List Char :=
  let mantissa := cs.takeWhile isNumberStart
  match cs.dropWhile isNumberStart with
  | [] => (mantissa, [])
  | c :: rest =>
    if Number.isExponentMark c then
      let (sign, rest) := spanSign rest
      (mantissa ++ c :: (sign ++ rest.takeWhile Char.isDigit), rest.dropWhile Char.isDigit)
    else (mantissa, c :: rest)

/-- A number or a name. -/
def readLeaf : Reader := fun cs =>
  match Text.trimStart cs with
  | [] => .error .unexpectedEnd
  | c :: rest =>
    if isNumberStart c then
      let (text, rest) := spanNumber (c :: rest)
      match Number.readFloat? text with
      | some x => .ok (.number x, rest)
      | none => .error (.invalidNumber (String.ofList text))
    else if isNameStart c then
      let name := (c :: rest).takeWhile isNameChar
      if name = ['p', 'i'] then .ok (.pi, (c :: rest).dropWhile isNameChar)
      else .error (.unknownIdentifier (String.ofList name))
    else .error (.unexpectedChar c)

/-- The bracket that closes a group. -/
def closeGroup (inner : Expression) (cs : List Char) :
    Except ExpressionError (Expression × List Char) :=
  match Text.trimStart cs with
  | ')' :: rest => .ok (.group inner, rest)
  | c :: _ => .error (.unexpectedChar c)
  | [] => .error .unexpectedEnd

/-- A signed atom under at most the given number of further groups and signs. -/
def readUnary : Nat → Reader
  | 0 => fun cs =>
    match Text.trimStart cs with
    | '-' :: _ => .error .tooDeep
    | '+' :: _ => .error .tooDeep
    | '(' :: _ => .error .tooDeep
    | _ => readLeaf cs
  | level + 1 => fun cs =>
    match Text.trimStart cs with
    | '-' :: rest => do
      let (operand, rest) ← readUnary level rest
      return (.negative operand, rest)
    | '+' :: rest => do
      let (operand, rest) ← readUnary level rest
      return (.positive operand, rest)
    | '(' :: rest => do
      let (inner, rest) ← readSum (readUnary level) rest
      closeGroup inner rest
    | _ => readLeaf cs

/-- The expression that a whole text is. -/
def read (cs : List Char) : Except ExpressionError Expression := do
  let (tree, rest) ← readSum (readUnary maxDepth) cs
  if (Text.trimStart rest).isEmpty then return tree else throw .trailing

end Expression

/-- The value of the expression that a whole text is. -/
def evaluate (cs : List Char) : Except ExpressionError Float :=
  (Expression.read cs).map Expression.value

end CircuitBench
