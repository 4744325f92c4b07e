import CircuitBench.Number.Digits
import CircuitBench.Number.Reading

/-!
# TOML values

A `Value` of TOML keeps a date or time as its text. `readScalar?` is the number, date or time that a
whole text denotes.
-/

namespace CircuitBench.Toml

/-- The values of TOML. -/
inductive Value where
  | string (text : String)
  | integer (value : Int)
  | float (value : Float)
  | boolean (value : Bool)
  | moment (text : String)
  | array (items : List Value)
  | table (entries : List (String × Value))
deriving Repr

/-! ### Numbers -/

/-- Digits of a kind with single underscores between them, the underscores left out. -/
def readGrouped? (isDigit : Char → Bool) : List Char → Option (List Char)
  | [] => none
  | [c] => if isDigit c then some [c] else none
  | c :: '_' :: rest =>
    if isDigit c then (readGrouped? isDigit rest).map (c :: ·) else none
  | c :: rest => if isDigit c then (readGrouped? isDigit rest).map (c :: ·) else none

/-- Decimal digits of which only a lone one may start with zero. -/
def readWhole? (cs : List Char) : Option (List Char) :=
  match cs with
  | '0' :: _ :: _ => none
  | _ => readGrouped? Char.isDigit cs

/-- A sign in front of a text, and whether it is a minus. -/
def splitSign : List Char → Bool × List Char
  | '-' :: rest => (true, rest)
  | '+' :: rest => (false, rest)
  | cs => (false, cs)

/-- The value of a digit in any base up to sixteen. -/
def digitValue (c : Char) : Nat :=
  if c.isDigit then c.toNat - '0'.toNat else c.toLower.toNat - 'a'.toNat + 10

/-- A digit of the given base. -/
def isDigitOf (base : Nat) (c : Char) : Bool :=
  c.isAlphanum && digitValue c < base

/-- A number in the given base that fits into 63 bits. -/
def readBased? (base : Nat) (cs : List Char) : Option Value := do
  let digits ← readGrouped? (isDigitOf base) cs
  let value := digits.foldl (fun n c => base * n + digitValue c) 0
  if value < Number.signed64 then some (.integer value) else none

/-- An integer of 64 bits. -/
def readInteger? (cs : List Char) : Option Value :=
  match cs with
  | '0' :: 'x' :: digits => readBased? 16 digits
  | '0' :: 'o' :: digits => readBased? 8 digits
  | '0' :: 'b' :: digits => readBased? 2 digits
  | _ => do
    let (negative, rest) := splitSign cs
    let digits ← readWhole? rest
    let value ← Number.readInt? Number.signed64 (if negative then '-' :: digits else digits)
    return .integer value

/-- An exponent behind its mark. -/
def readPower? (cs : List Char) : Option Int := do
  let (negative, rest) := splitSign cs
  let digits ← readGrouped? Char.isDigit rest
  let value : Int := Number.digitsValue digits
  return if negative then -value else value

/-- The parts of a float: a whole number with a fraction, an exponent or both. -/
def readParts? (cs : List Char) : Option Number.Numeral := do
  let mantissa := cs.takeWhile (!Number.isExponentMark ·)
  let power := (cs.dropWhile (!Number.isExponentMark ·)).drop 1
  let whole ← readWhole? (mantissa.takeWhile (· != '.'))
  match mantissa.dropWhile (· != '.') with
  | [] => return ⟨whole, [], ← readPower? power⟩
  | _ :: fraction =>
    let fraction ← readGrouped? Char.isDigit fraction
    if mantissa.length = cs.length then return ⟨whole, fraction, 0⟩
    else return ⟨whole, fraction, ← readPower? power⟩

/-- A float. A positive one beyond the largest is refused. -/
def readFloat? (cs : List Char) : Option Value :=
  let (negative, rest) := splitSign cs
  if rest = ['i', 'n', 'f'] then some (.float (Number.ofMagnitude negative Number.infinityBits))
  else if rest = ['n', 'a', 'n'] then some (.float Number.nan)
  else do
    let bits := (← readParts? rest).toBits
    if bits = Number.infinityBits && !negative then none
    else some (.float (Number.ofMagnitude negative bits))

/-! ### Dates and times -/

/-- A number of exactly the given count of digits, within bounds. -/
def readFixed? (count low high : Nat) (cs : List Char) : Option Nat :=
  let value := Number.digitsValue cs
  if cs.length = count && cs.all Char.isDigit && low ≤ value && value ≤ high then some value
  else none

/-- The number of days of a month. -/
def daysIn (year month : Nat) : Nat :=
  if month = 2 then
    if year % 4 = 0 ∧ (year % 100 ≠ 0 ∨ year % 400 = 0) then 29 else 28
  else if month = 4 ∨ month = 6 ∨ month = 9 ∨ month = 11 then 30
  else 31

/-- The text behind a date of ten characters. -/
def dropDate? (cs : List Char) : Option (List Char) := do
  let year ← readFixed? 4 0 9999 (cs.take 4)
  let month ← readFixed? 2 1 12 ((cs.drop 5).take 2)
  let _ ← readFixed? 2 1 (daysIn year month) ((cs.drop 8).take 2)
  if cs[4]? = some '-' ∧ cs[7]? = some '-' then some (cs.drop 10) else none

/-- The text behind hours and minutes. -/
def dropMinutes? (cs : List Char) : Option (List Char) := do
  let _ ← readFixed? 2 0 23 (cs.take 2)
  let _ ← readFixed? 2 0 59 ((cs.drop 3).take 2)
  if cs[2]? = some ':' then some (cs.drop 5) else none

/-- The text behind a time with seconds, which may have a fraction. -/
def dropTime? (cs : List Char) : Option (List Char) := do
  let rest ← dropMinutes? cs
  let _ ← readFixed? 2 0 60 ((rest.drop 1).take 2)
  if rest.head? ≠ some ':' then none
  else match rest.drop 3 with
    | '.' :: fraction =>
      if (fraction.takeWhile Char.isDigit).isEmpty then none
      else some (fraction.dropWhile Char.isDigit)
    | rest => some rest

/-- Whether a text is a distance from universal time. -/
def isOffset (cs : List Char) : Bool :=
  match cs with
  | ['Z'] => true
  | ['z'] => true
  | '+' :: rest => dropMinutes? rest == some []
  | '-' :: rest => dropMinutes? rest == some []
  | _ => false

/-- A mark between a date and a time. -/
def isTimeMark (c : Char) : Bool :=
  c == 'T' || c == 't' || c == ' '

/-- Whether a text is a date, a time, or both, then with an optional distance. -/
def isMoment (cs : List Char) : Bool :=
  match dropDate? cs with
  | some [] => true
  | some (c :: rest) =>
    isTimeMark c && match dropTime? rest with
      | some [] => true
      | some offset => isOffset offset
      | none => false
  | none => dropTime? cs == some []

/-- The number, date or time that a whole text denotes. -/
def readScalar? (cs : List Char) : Option Value :=
  if isMoment cs then some (.moment (String.ofList cs))
  else (readInteger? cs).or (readFloat? cs)

end CircuitBench.Toml
