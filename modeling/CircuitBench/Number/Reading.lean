import CircuitBench.Number.Digits
import CircuitBench.Number.Binary64

/-!
# Reading floats

A decimal `Numeral` has an optional sign, digits with at most one point among them, and an optional
exponent; `inf`, `infinity` and `nan` are read in any case. `readFloat?` gives the nearest float.
-/

namespace CircuitBench.Number

/-- The number `(whole ++ fraction) * 10 ^ (exponent - fraction.length)`. -/
structure Numeral where
  whole : List Char
  fraction : List Char
  exponent : Int
deriving DecidableEq, Repr

/-- The bits of the nearest magnitude. Exponents that lead outside the range of finite floats are
not written out. -/
def Numeral.toBits (n : Numeral) : Nat :=
  let digits := n.whole ++ n.fraction
  let value := digitsValue digits
  let exponent := n.exponent - n.fraction.length
  let places := (natText value).length
  if value = 0 then 0
  else if exponent + places > 400 then infinityBits
  else if exponent + places < -400 then 0
  else match exponent with
    | .ofNat e => nearestBits (value * Nat.pow 10 e) 1
    | .negSucc e => nearestBits value (Nat.pow 10 (e + 1))

/-- Digits, with one point among them or none, and at least one digit. -/
def splitMantissa? (cs : List Char) : Option (List Char × List Char) :=
  let whole := cs.takeWhile Char.isDigit
  match cs.dropWhile Char.isDigit with
  | [] => if whole.isEmpty then none else some (whole, [])
  | '.' :: fraction =>
    if fraction.all Char.isDigit && !(whole.isEmpty && fraction.isEmpty) then some (whole, fraction)
    else none
  | _ => none

/-- An exponent: an optional sign and at least one digit. -/
def readExponent? (cs : List Char) : Option Int :=
  match cs with
  | '-' :: ds => if isDigits ds then some (-(digitsValue ds : Int)) else none
  | '+' :: ds => if isDigits ds then some (digitsValue ds) else none
  | ds => if isDigits ds then some (digitsValue ds) else none

/-- The mark of an exponent. -/
def isExponentMark (c : Char) : Bool :=
  c == 'e' || c == 'E'

/-- The parts of an unsigned numeral. -/
def readNumeral? (cs : List Char) : Option Numeral := do
  let (whole, fraction) ← splitMantissa? (cs.takeWhile (!isExponentMark ·))
  match cs.dropWhile (!isExponentMark ·) with
  | [] => some ⟨whole, fraction, 0⟩
  | _ :: rest => (readExponent? rest).map (⟨whole, fraction, ·⟩)

/-- The magnitude of an unsigned text: a numeral or one of the words for infinity and NaN. -/
def readMagnitude? (cs : List Char) : Option Nat :=
  let word := cs.map Char.toLower
  if word = ['i', 'n', 'f'] || word = ['i', 'n', 'f', 'i', 'n', 'i', 't', 'y'] then
    some infinityBits
  else if word = ['n', 'a', 'n'] then some (infinityBits + Nat.pow 2 51)
  else (readNumeral? cs).map Numeral.toBits

/-- The float that a whole text denotes. -/
def readFloat? (cs : List Char) : Option Float :=
  match cs with
  | '-' :: rest => (readMagnitude? rest).map (ofMagnitude true)
  | '+' :: rest => (readMagnitude? rest).map (ofMagnitude false)
  | _ => (readMagnitude? cs).map (ofMagnitude false)

end CircuitBench.Number
