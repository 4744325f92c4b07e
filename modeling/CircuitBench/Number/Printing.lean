import CircuitBench.Number.Shortest

/-!
# The written forms of floats

Floats are written with their shortest digits. Two forms are in use: `plainText` never has an
exponent and no point on whole numbers; `jsonText` always shows a point or an exponent, and there is
none for values that are not finite. `halfTurnsText` is the plain form with a fractional part on
whole numbers.
-/

namespace CircuitBench.Number

/-- The digits of a decimal written out in full, with a point only when there is a fraction. -/
def Decimal.positional (d : Decimal) : List Char :=
  let ds := natText d.digits
  match d.exponent with
  | .ofNat e => ds ++ List.replicate e '0'
  | .negSucc e =>
    let places := e + 1
    if places < ds.length then
      ds.take (ds.length - places) ++ '.' :: ds.drop (ds.length - places)
    else
      '0' :: '.' :: (List.replicate (places - ds.length) '0' ++ ds)

/-- One digit, the others after a point, and the exponent with its sign. -/
def Decimal.scientific (d : Decimal) : List Char :=
  let ds := natText d.digits
  let exponent : Int := d.exponent + (ds.length - 1 : Nat)
  let mantissa := match ds with
    | [] => []
    | [x] => [x]
    | x :: rest => x :: '.' :: rest
  mantissa ++ 'e' :: (if exponent < 0 then intText exponent else '+' :: intText exponent)

/-- The decimal of a magnitude; zero for zero. -/
def magnitudeDecimal (tie : Tie) (bits : Nat) : Decimal :=
  if bits = 0 then ⟨0, 0⟩ else shortest tie (Binary64.ofBits bits)

/-- A sign in front of a text. -/
def signed (negative : Bool) (cs : List Char) : List Char :=
  if negative then '-' :: cs else cs

/-- The plain form: shortest digits, never an exponent. A tie goes up. -/
def plainText (x : Float) : List Char :=
  let bits := magnitudeBits x
  if infinityBits < bits then ['N', 'a', 'N']
  else if bits = infinityBits then signed (isNegative x) ['i', 'n', 'f']
  else signed (isNegative x) (magnitudeDecimal .up bits).positional

/-- The plain form, with `.0` added to whole numbers. -/
def halfTurnsText (x : Float) : List Char :=
  let text := plainText x
  if text.contains '.' || !isFinite x then text else text ++ ['.', '0']

/-- The smallest power of ten that JSON text writes without an exponent. -/
def jsonLeastPlace : Int := -5

/-- The first power of ten that JSON text writes with an exponent. -/
def jsonFirstExponent : Int := 16

/-- The JSON form: shortest digits, a tie going to the even one; positional with a fraction from
`0.00001` up to but not including `10 ^ 16`, with an exponent otherwise; nothing for values that are
not finite. -/
def jsonText (x : Float) : Option (List Char) :=
  if !isFinite x then none
  else
    let bits := magnitudeBits x
    let d := magnitudeDecimal .toEven bits
    let place : Int := d.exponent + ((natText d.digits).length - 1 : Nat)
    let text :=
      if bits = 0 || (jsonLeastPlace ≤ place && place < jsonFirstExponent) then
        let plain := d.positional
        if plain.contains '.' then plain else plain ++ ['.', '0']
      else d.scientific
    some (signed (isNegative x) text)

end CircuitBench.Number
