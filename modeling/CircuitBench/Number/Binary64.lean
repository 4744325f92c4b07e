/-!
# The values of floats

A finite float is a whole number of the smallest positive float, `2 ^ -1074`. The bits of its
magnitude give a significand and a power of two, a `Binary64`; the bits of the nearest float come
back from any quotient of natural numbers by one rounding (`nearestBits`), which takes the even one
of two.
-/

namespace CircuitBench.Number

/-- The magnitude `significand * 2 ^ power`, counted in units of `2 ^ -1074`. -/
structure Binary64 where
  significand : Nat
  power : Nat
deriving DecidableEq, Repr

/-- The bits of positive infinity. -/
def infinityBits : Nat := 2047 * Nat.pow 2 52

/-- The bits of infinity: the last exponent above an empty fraction. -/
theorem infinityBits_eq : infinityBits = 0x7FF0000000000000 := rfl

/-- The magnitude that finite bits without the sign stand for. -/
def Binary64.ofBits (bits : Nat) : Binary64 :=
  let hidden := Nat.pow 2 52
  if bits < hidden then ⟨bits, 0⟩ else ⟨bits % hidden + hidden, bits / hidden - 1⟩

/-- The quotient rounded to a whole number, a half going to the even neighbour. -/
def roundHalfEven (num den : Nat) : Nat :=
  let q := num / den
  let r := num % den
  if 2 * r < den then q
  else if den < 2 * r then q + 1
  else if q % 2 = 0 then q else q + 1

/-- The bits of the float nearest to `num / den`; infinity from half a unit above the largest. -/
def nearestBits (num den : Nat) : Nat :=
  let scaled := num * Nat.pow 2 1074
  let power := Nat.log2 (scaled / den) - 52
  min (power * Nat.pow 2 52 + roundHalfEven scaled (den * Nat.pow 2 power)) infinityBits

/-- The bits of a float without its sign. -/
def magnitudeBits (x : Float) : Nat :=
  x.toBits.toNat % Nat.pow 2 63

/-- Whether the sign bit is set. -/
def isNegative (x : Float) : Bool :=
  Nat.pow 2 63 ≤ x.toBits.toNat

/-- The float with the given sign and magnitude bits. -/
def ofMagnitude (negative : Bool) (bits : Nat) : Float :=
  Float.ofBits (UInt64.ofNat (if negative then bits + Nat.pow 2 63 else bits))

/-- A float that is neither infinite nor NaN. -/
def isFinite (x : Float) : Bool :=
  magnitudeBits x < infinityBits

/-- A float that is not a number. -/
def isNaN (x : Float) : Bool :=
  infinityBits < magnitudeBits x

/-- The value of the circle constant nearest to it. -/
def pi : Float :=
  Float.ofBits 0x400921FB54442D18

/-- The value that is not a number. -/
def nan : Float :=
  ofMagnitude false (infinityBits + Nat.pow 2 51)

/-- The whole number that a finite float without a fractional part is, up to its sign. -/
def wholeMagnitude? (x : Float) : Option Nat :=
  let v := Binary64.ofBits (magnitudeBits x)
  let units := v.significand * Nat.pow 2 v.power
  if isFinite x && units % Nat.pow 2 1074 = 0 then some (units / Nat.pow 2 1074) else none

/-- The larger of two floats; NaN is left out, and the second wins a tie. -/
def larger (a b : Float) : Float :=
  if isNaN a then b else if isNaN b then a else if b < a then a else b

end CircuitBench.Number
