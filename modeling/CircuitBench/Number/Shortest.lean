import CircuitBench.Number.Digits
import CircuitBench.Number.Binary64

/-!
# Shortest decimals

The `shortest` decimal of a float has the fewest digits of those that round to it and, among these,
is the one nearest to it; a `Tie` tells what happens when two are equally near. The value and the
ends of the interval that rounds to it are whole multiples of `10 ^ -1074`, so the search compares
natural numbers only.
-/

namespace CircuitBench.Number

/-- The number `digits * 10 ^ exponent`. -/
structure Decimal where
  digits : Nat
  exponent : Int
deriving DecidableEq, Repr

/-- The choice between two neighbours that are equally near. -/
inductive Tie where
  | up
  | toEven
deriving DecidableEq, Repr

/-- The interval of numbers that round to a float, in quarters of `10 ^ -1074`. -/
structure RoundingInterval where
  low : Nat
  value : Nat
  high : Nat
  /-- The ends themselves round to the float. -/
  closed : Bool
deriving DecidableEq, Repr

/-- Half a unit to either side, a quarter below a power of two; the ends belong to it exactly when
the significand is even. -/
def Binary64.interval (v : Binary64) : RoundingInterval :=
  let unit := Nat.pow 2 v.power * Nat.pow 5 1074
  let below := if v.significand = Nat.pow 2 52 ∧ 0 < v.power then unit else 2 * unit
  { low := 4 * (v.significand * unit) - below
    value := 4 * (v.significand * unit)
    high := 4 * (v.significand * unit) + 2 * unit
    closed := v.significand % 2 = 0 }

/-- Whether a number, in the interval's units, rounds to the float. -/
def RoundingInterval.holds (i : RoundingInterval) (x : Nat) : Bool :=
  if i.closed then i.low ≤ x && x ≤ i.high else i.low < x && x < i.high

/-- The multiple of `10 ^ place` in the interval nearest to its value, counted in that step. -/
def RoundingInterval.onGrid? (i : RoundingInterval) (tie : Tie) (place : Nat) : Option Nat :=
  let step := 4 * Nat.pow 10 place
  let below := i.value / step
  let above := below + 1
  let down := i.value - below * step
  let up := above * step - i.value
  match i.holds (below * step), i.holds (above * step) with
  | true, true =>
    some (if down < up then below
      else if up < down then above
      else match tie with
        | .up => above
        | .toEven => if below % 2 = 0 then below else above)
  | true, false => some below
  | false, true => some above
  | false, false => none

/-- The first grid from `place` downwards that has a point in the interval. -/
def RoundingInterval.search (i : RoundingInterval) (tie : Tie) : Nat → Nat × Nat
  | 0 => (i.value / 4, 0)
  | place + 1 =>
    match i.onGrid? tie (place + 1) with
    | some n => (n, place + 1)
    | none => i.search tie place

/-- A number of decimal places that the digits of `n` do not exceed. -/
def digitBound (n : Nat) : Nat :=
  Nat.log2 n * 30103 / 100000 + 1

/-- The digits of a number without the zeros at its end, with their count; `fuel` bounds that
count. -/
def dropZeros : Nat → Nat → Nat × Nat
  | 0, n => (n, 0)
  | fuel + 1, n =>
    if n % 10 = 0 then
      let (m, k) := dropZeros fuel (n / 10)
      (m, k + 1)
    else (n, 0)

/-- The decimal in an interval with the fewest digits, without zeros at its end. -/
def RoundingInterval.shortest (i : RoundingInterval) (tie : Tie) : Decimal :=
  let (n, place) := i.search tie (digitBound i.value)
  let (m, zeros) := dropZeros 20 n
  ⟨m, (place : Int) - 1074 + zeros⟩

/-- The shortest decimal that rounds to a positive finite magnitude. -/
def shortest (tie : Tie) (v : Binary64) : Decimal :=
  v.interval.shortest tie

end CircuitBench.Number
