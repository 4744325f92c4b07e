import CircuitBench.Number.Reading

/-!
# JSON tokens

Strings, numbers and words at the front of a text. A text is read once from left to right, so the
first problem met decides between three kinds of `Fault`: the text is no JSON, it ends too early, or
it is JSON of the wrong shape. `readStringBody` resolves escapes, and `readNumber` keeps the parts
of a number.
-/

namespace CircuitBench.Json

/-- Why a text is not the JSON document that is expected. -/
inductive Fault where
  /-- The text is not JSON. -/
  | malformed
  /-- The text is JSON of another shape. -/
  | mismatch
  /-- The text ends too early. -/
  | truncated
deriving DecidableEq, Repr

/-- The category of a fault in words. -/
def Fault.message : Fault → String
  | .malformed => "not a JSON text"
  | .mismatch => "not the expected document"
  | .truncated => "unexpected end of the text"

/-- What reading from the front of a text gives: a result and the rest of the text. -/
abbrev Reader (α : Type) : Type := List Char → Except Fault (α × List Char)

/-- The blanks that JSON allows between tokens. -/
def isSpace (c : Char) : Bool :=
  c == ' ' || c == '\n' || c == '\t' || c == '\r'

/-- The text behind the blanks in front. -/
def skipSpace (cs : List Char) : List Char :=
  cs.dropWhile isSpace

/-- Whether a text has at least the given number of bytes. -/
def hasBytes (n : Nat) (cs : List Char) : Bool :=
  n ≤ ((cs.take n).map Char.utf8Size).foldr (· + ·) 0

/-- The value of a hexadecimal digit. -/
def hexValue? (c : Char) : Option Nat :=
  if c.isDigit then some (c.toNat - '0'.toNat)
  else if 'a' ≤ c ∧ c ≤ 'f' then some (c.toNat - 'a'.toNat + 10)
  else if 'A' ≤ c ∧ c ≤ 'F' then some (c.toNat - 'A'.toNat + 10)
  else none

/-- The character that a letter after a backslash stands for. -/
def escaped? : Char → Option Char
  | '"' => some '"'
  | '\\' => some '\\'
  | '/' => some '/'
  | 'b' => some '\x08'
  | 'f' => some '\x0c'
  | 'n' => some '\n'
  | 'r' => some '\r'
  | 't' => some '\t'
  | _ => none

/-- The first halves of pairs of escapes for characters beyond sixteen bits. -/
def isHighSurrogate (n : Nat) : Bool :=
  0xD800 ≤ n && n ≤ 0xDBFF

/-- The second halves of such pairs. -/
def isLowSurrogate (n : Nat) : Bool :=
  0xDC00 ≤ n && n ≤ 0xDFFF

/-- The character of a pair of escapes. -/
def pairChar (high low : Nat) : Char :=
  Char.ofNat ((high - 0xD800) * 0x400 + (low - 0xDC00) + 0x10000)

/-- Where the reading of a string stands. -/
inductive StringState where
  /-- Between characters. -/
  | text
  /-- Behind a backslash. -/
  | escape
  /-- Inside hexadecimal digits; `high` is the first half of a pair. -/
  | hex (high : Option Nat) (value left : Nat)
  /-- Before the backslash of the second half. -/
  | backslash (high : Nat)
  /-- Before the letter of the second half. -/
  | letter (high : Nat)

/-- A character in front of what was read behind it. -/
def consRead (c : Char) (r : List Char × List Char) : List Char × List Char :=
  (c :: r.1, r.2)

/-- The characters up to the closing quote. -/
def readStringFrom : StringState → Reader (List Char)
  | _, [] => .error .truncated
  | .text, c :: rest =>
    if c = '"' then .ok ([], rest)
    else if c = '\\' then readStringFrom .escape rest
    else if c.toNat < 0x20 then .error .malformed
    else (readStringFrom .text rest).map (consRead c)
  | .escape, c :: rest =>
    if c = 'u' then
      if hasBytes 4 rest then readStringFrom (.hex none 0 4) rest else .error .truncated
    else match escaped? c with
      | some d => (readStringFrom .text rest).map (consRead d)
      | none => .error .malformed
  | .hex high value left, c :: rest =>
    match hexValue? c with
    | none => .error .malformed
    | some h =>
      let n := value * 16 + h
      if 1 < left then readStringFrom (.hex high n (left - 1)) rest
      else match high with
        | none =>
          if isLowSurrogate n then .error .malformed
          else if isHighSurrogate n then readStringFrom (.backslash n) rest
          else (readStringFrom .text rest).map (consRead (Char.ofNat n))
        | some first =>
          if isLowSurrogate n then (readStringFrom .text rest).map (consRead (pairChar first n))
          else .error .malformed
  | .backslash high, c :: rest =>
    if c = '\\' then readStringFrom (.letter high) rest else .error .malformed
  | .letter high, c :: rest =>
    if c = 'u' then
      if hasBytes 4 rest then readStringFrom (.hex (some high) 0 4) rest else .error .truncated
    else .error .malformed

/-- The characters of a string whose opening quote has been read. -/
def readStringBody : Reader (List Char) :=
  readStringFrom .text

/-- A word after its first letter. -/
def readWord (expected : List Char) : Reader Unit :=
  match expected with
  | [] => fun cs => .ok ((), cs)
  | e :: others => fun cs =>
    match cs with
    | [] => .error .truncated
    | c :: rest => if c = e then readWord others rest else .error .malformed

/-- A number with its parts; a part that is not written is absent. -/
structure NumberToken where
  negative : Bool
  whole : List Char
  fraction : Option (List Char)
  exponent : Option Int
deriving DecidableEq, Repr

/-- At least one digit. -/
def readDigits : Reader (List Char)
  | [] => .error .truncated
  | c :: rest =>
    if c.isDigit then .ok (c :: rest.takeWhile Char.isDigit, rest.dropWhile Char.isDigit)
    else .error .malformed

/-- Digits of which only a lone one may be zero. -/
def readWhole (cs : List Char) : Except Fault (List Char × List Char) := do
  let (digits, rest) ← readDigits cs
  match digits with
  | '0' :: _ :: _ => throw .malformed
  | _ => return (digits, rest)

/-- The fraction of a number, if a point follows. -/
def readFraction : Reader (Option (List Char))
  | '.' :: rest => do
    let (digits, rest) ← readDigits rest
    return (some digits, rest)
  | cs => .ok (none, cs)

/-- The exponent of a number, if its mark follows. -/
def readExponent : Reader (Option Int)
  | [] => .ok (none, [])
  | c :: rest =>
    if Number.isExponentMark c then
      match rest with
      | '-' :: rest => do
        let (digits, rest) ← readDigits rest
        return (some (-(Number.digitsValue digits : Int)), rest)
      | '+' :: rest => do
        let (digits, rest) ← readDigits rest
        return (some (Number.digitsValue digits : Int), rest)
      | rest => do
        let (digits, rest) ← readDigits rest
        return (some (Number.digitsValue digits : Int), rest)
    else .ok (none, c :: rest)

/-- The parts of a number, whatever its size. -/
def scanNumber (cs : List Char) : Except Fault (NumberToken × List Char) := do
  let (negative, cs) := match cs with
    | '-' :: rest => (true, rest)
    | _ => (false, cs)
  let (whole, rest) ← readWhole cs
  let (fraction, rest) ← readFraction rest
  let (exponent, rest) ← readExponent rest
  return (⟨negative, whole, fraction, exponent⟩, rest)

/-- Leading digits as a number below `2 ^ 64`, and the count of the digits that it leaves out. -/
def leadingValue (start : Nat) : List Char → Nat × Nat
  | [] => (start, 0)
  | d :: rest =>
    let next := Number.digitsValue [d] + 10 * start
    if next < Number.word64 then leadingValue next rest else (start, rest.length + 1)

/-- Whether a number lies beyond the range of floats, judged by its leading digits times a power of
ten. A whole number below `2 ^ 64` never does. -/
def NumberToken.isHuge (t : NumberToken) : Bool :=
  let (whole, omitted) := leadingValue 0 t.whole
  let fraction := t.fraction.getD []
  let (significand, unread) := leadingValue whole fraction
  let exponent : Int := t.exponent.getD 0 + omitted - (fraction.length - unread : Nat)
  if significand = 0 then false
  else match exponent with
    | .negSucc _ => false
    | .ofNat e =>
      308 < e || !Number.isFinite
        (Number.ofMagnitude false (Number.nearestBits significand 1) *
          Number.ofMagnitude false (Number.nearestBits (Nat.pow 10 e) 1))

/-- A number that lies in the range of floats. -/
def readNumber (cs : List Char) : Except Fault (NumberToken × List Char) := do
  let (token, rest) ← scanNumber cs
  if token.isHuge then throw .malformed else return (token, rest)

/-- A number without fraction and exponent, from zero up to `bound`. -/
def NumberToken.natBelow? (bound : Nat) (t : NumberToken) : Option Nat :=
  if t.negative || t.fraction.isSome || t.exponent.isSome then none
  else if Number.digitsValue t.whole < bound then some (Number.digitsValue t.whole) else none

/-- A character that a number starts with. -/
def startsNumber (c : Char) : Bool :=
  c == '-' || c.isDigit

/-- A mismatch, unless reading shows another fault first. -/
def mismatchAfter {α : Type} : Except Fault (α × List Char) → Fault
  | .ok _ => .mismatch
  | .error fault => fault

/-- The fault of a value of the wrong type: its first token is read, then the type is refused. -/
def mismatchAt (cs : List Char) : Fault :=
  match skipSpace cs with
  | [] => .truncated
  | c :: rest =>
    if c = 'n' then mismatchAfter (readWord ['u', 'l', 'l'] rest)
    else if c = 't' then mismatchAfter (readWord ['r', 'u', 'e'] rest)
    else if c = 'f' then mismatchAfter (readWord ['a', 'l', 's', 'e'] rest)
    else if c = '"' then mismatchAfter (readStringBody rest)
    else if startsNumber c then mismatchAfter (readNumber (c :: rest))
    else if c = '[' ∨ c = '\x7b' then .mismatch
    else .malformed

end CircuitBench.Json
