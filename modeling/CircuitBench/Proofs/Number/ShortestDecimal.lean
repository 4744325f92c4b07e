import Mathlib
import CircuitBench.Number.Shortest
import CircuitBench.Proofs.Number.Rounding

/-!
# Shortest decimals round back

The search for the shortest decimal of a float never leaves the float's rounding interval
(`holds_shortest`), so what it ends with rounds to the float again (`nearestBits_eq_of_holds`).
Nothing is said here about how few digits it has.
-/

namespace CircuitBench.Number

/-! ### The rounding interval -/

/-- The number of steps of `10 ^ -1074` that a decimal denotes. -/
def Decimal.units (d : Decimal) : Nat :=
  d.digits * 10 ^ (d.exponent + 1074).toNat

/-- The unit of a magnitude, in steps of `10 ^ -1074`. -/
def Binary64.unit (v : Binary64) : Nat :=
  2 ^ v.power * 5 ^ 1074

/-- A unit is not empty. -/
lemma Binary64.unit_pos (v : Binary64) : 0 < v.unit := by
  have hpow : ∀ k : Nat, 0 < 2 ^ v.power * 5 ^ k := fun k => by positivity
  exact hpow 1074

/-- The rounding interval in units. -/
lemma Binary64.interval_eq (v : Binary64) :
    v.interval = ⟨4 * (v.significand * v.unit) - v.below * v.unit, 4 * (v.significand * v.unit),
      4 * (v.significand * v.unit) + 2 * v.unit, v.significand % 2 = 0⟩ := by
  unfold Binary64.interval Binary64.below Binary64.unit
  -- the power of five is kept as it is, as it is too large to be written out
  generalize 1074 = k
  simp only [Nat.pow_eq]
  split_ifs <;> simp only [Nat.one_mul]

/-- The value in the middle of the rounding interval. -/
lemma Binary64.interval_value (v : Binary64) :
    v.interval.value = 4 * (v.significand * v.unit) := by
  rw [Binary64.interval_eq]

/-- The bounds that the numbers of a rounding interval keep. -/
lemma RoundingInterval.holds_iff {i : RoundingInterval} {x : Nat} :
    i.holds x = true ↔ i.low ≤ x ∧ x ≤ i.high ∧ (i.closed = false → i.low < x ∧ x < i.high) := by
  unfold RoundingInterval.holds
  cases i.closed
  · simp
    omega
  · simp

/-- A value lies in its own rounding interval. -/
lemma Binary64.interval_holds_value {v : Binary64} (h : 0 < v.significand) :
    v.interval.holds v.interval.value = true := by
  have hunit := v.unit_pos
  have hvalue : v.unit ≤ v.significand * v.unit := Nat.le_mul_of_pos_left v.unit h
  rw [RoundingInterval.holds_iff, Binary64.interval_eq]
  dsimp only [Binary64.below]
  split_ifs <;> exact ⟨by omega, by omega, fun _ => ⟨by omega, by omega⟩⟩

/-! ### The search -/

/-- A point that is chosen on a grid lies in the interval. -/
lemma RoundingInterval.holds_of_onGrid? {i : RoundingInterval} {tie : Tie} {place n : Nat}
    (h : i.onGrid? tie place = some n) : i.holds (n * (4 * 10 ^ place)) = true := by
  simp only [RoundingInterval.onGrid?, Nat.pow_eq] at h
  split at h
  · next hbelow habove =>
    have h' := Option.some.inj h
    cases tie <;> dsimp only at h' <;> split_ifs at h' <;> (subst h'; assumption)
  · next hbelow habove =>
    rw [← Option.some.inj h]
    exact hbelow
  · next hbelow habove =>
    rw [← Option.some.inj h]
    exact habove
  · exact absurd h (by simp)

/-- The point that the search ends with lies in the interval. -/
lemma RoundingInterval.holds_search {i : RoundingInterval} (tie : Tie)
    (hvalue : i.holds i.value = true)
    (hfour : i.value % 4 = 0) (place : Nat) :
    i.holds ((i.search tie place).1 * (4 * 10 ^ (i.search tie place).2)) = true := by
  induction place with
  | zero =>
    have : i.value / 4 * (4 * 10 ^ 0) = i.value := by omega
    rw [RoundingInterval.search, this]
    exact hvalue
  | succ place ih =>
    rw [RoundingInterval.search]
    split
    · next n hn => exact RoundingInterval.holds_of_onGrid? hn
    · exact ih

/-- The zeros that are taken from the end of a number are counted. -/
lemma dropZeros_mul (fuel n : Nat) : (dropZeros fuel n).1 * 10 ^ (dropZeros fuel n).2 = n := by
  induction fuel generalizing n with
  | zero => simp [dropZeros]
  | succ fuel ih =>
    rw [dropZeros]
    split_ifs with h
    · have := ih (n / 10)
      simp only [pow_succ, ← Nat.mul_assoc, this]
      omega
    · simp

/-- The shortest decimal of an interval that holds its value lies in it. -/
lemma RoundingInterval.holds_shortest {i : RoundingInterval} (tie : Tie)
    (hvalue : i.holds i.value = true) (hfour : i.value % 4 = 0) :
    -1074 ≤ (i.shortest tie).exponent ∧ i.holds (4 * (i.shortest tie).units) = true := by
  have hsearch := RoundingInterval.holds_search tie hvalue hfour (digitBound i.value)
  rcases hs : i.search tie (digitBound i.value) with ⟨n, place⟩
  rcases hz : dropZeros 20 n with ⟨m, zeros⟩
  rw [hs] at hsearch
  have hdrop := dropZeros_mul 20 n
  rw [hz] at hdrop
  have hshort : i.shortest tie = ⟨m, (place : Int) - 1074 + zeros⟩ := by
    unfold RoundingInterval.shortest
    simp only [hs, hz]
  have hplaces : ((place : Int) - 1074 + zeros + 1074).toNat = zeros + place := by omega
  rw [hshort]
  refine ⟨by dsimp only; omega, ?_⟩
  have hunits : 4 * (m * 10 ^ (zeros + place)) = n * (4 * 10 ^ place) := by
    rw [pow_add, ← hdrop]
    ring
  rw [Decimal.units, hplaces, hunits]
  exact hsearch

/-- The shortest decimal of a positive magnitude lies in its rounding interval. -/
lemma holds_shortest (tie : Tie) {v : Binary64} (h : 0 < v.significand) :
    -1074 ≤ (shortest tie v).exponent ∧ v.interval.holds (4 * (shortest tie v).units) = true := by
  have hfour : v.interval.value % 4 = 0 := by
    rw [Binary64.interval_value]
    exact Nat.mul_mod_right 4 _
  exact RoundingInterval.holds_shortest tie (Binary64.interval_holds_value h) hfour


/-! ### Back to the float -/

/-- A quotient that denotes units in the rounding interval of a magnitude rounds to it. -/
lemma nearestBits_eq_of_holds {bits num den units : Nat} (hpos : 0 < bits)
    (hfin : bits < infinityBits)
    (hden : 0 < den) (hunits : num * 10 ^ 1074 = units * den)
    (hholds : (Binary64.ofBits bits).interval.holds (4 * units) = true) :
    nearestBits num den = bits := by
  obtain ⟨hbits, hsig, hsig53, hnormal⟩ := Binary64.ofBits_bits hpos
  set v := Binary64.ofBits bits
  rw [RoundingInterval.holds_iff, Binary64.interval_eq] at hholds
  obtain ⟨hlow, hhigh, hopen⟩ := hholds
  dsimp only at hlow hhigh hopen
  -- the bounds are counted in steps of `10 ^ -1074`, a float in steps of `2 ^ -1074`
  obtain ⟨five, hfive⟩ : ∃ n, n = 5 ^ 1074 := ⟨_, rfl⟩
  obtain ⟨x, hx⟩ : ∃ n, n = num * 2 ^ 1074 := ⟨_, rfl⟩
  have hfivepos : 0 < five := by
    have hpow : ∀ k : Nat, 0 < 5 ^ k := fun k => Nat.pow_pos (by decide)
    rw [hfive]
    exact hpow 1074
  have hunit : v.unit = 2 ^ v.power * five := by rw [Binary64.unit, ← hfive]
  have hxunits : x * five = units * den := by
    have hten : ∀ k : Nat, num * 2 ^ k * 5 ^ k = num * 10 ^ k := fun k => by
      rw [Nat.mul_assoc, ← Nat.mul_pow]
    rw [hx, hfive, hten, hunits]
  have hvalue : 4 * (v.significand * v.unit) * den
      = 4 * (v.significand * 2 ^ v.power * den) * five := by rw [hunit]; ring
  have hlower : (4 * units + v.below * v.unit) * den
      = (4 * x + v.below * (2 ^ v.power * den)) * five := by
    calc (4 * units + v.below * v.unit) * den
        = 4 * (units * den) + v.below * (2 ^ v.power * five) * den := by rw [hunit]; ring
      _ = (4 * x + v.below * (2 ^ v.power * den)) * five := by rw [← hxunits]; ring
  have hupper : (4 * (v.significand * v.unit) + 2 * v.unit) * den
      = (4 * (v.significand * 2 ^ v.power * den) + 2 * (2 ^ v.power * den)) * five := by
    rw [hunit]; ring
  have hpoint : 4 * units * den = 4 * x * five := by
    calc 4 * units * den = 4 * (units * den) := by ring
      _ = 4 * x * five := by rw [← hxunits]; ring
  have hround := @nearestBits_eq_of_mem num den v hden hsig53 hnormal (by rw [hbits]; exact hfin.le)
  rw [hbits, ← hx] at hround
  apply hround
  · refine Nat.le_of_mul_le_mul_right ?_ hfivepos
    rw [← hvalue, ← hlower]
    exact Nat.mul_le_mul_right den (by omega)
  · refine Nat.le_of_mul_le_mul_right ?_ hfivepos
    rw [← hupper, ← hpoint]
    exact Nat.mul_le_mul_right den hhigh
  · intro hodd
    obtain ⟨hlow', hhigh'⟩ := hopen (by simp [hodd])
    constructor
    · refine Nat.lt_of_mul_lt_mul_right (a := five) ?_
      rw [← hvalue, ← hlower]
      exact Nat.mul_lt_mul_of_pos_right (by omega) hden
    · refine Nat.lt_of_mul_lt_mul_right (a := five) ?_
      rw [← hupper, ← hpoint]
      exact Nat.mul_lt_mul_of_pos_right hhigh' hden

/-- The units of a decimal in the rounding interval of a finite magnitude are neither too few nor
too many. -/
lemma units_bounds {bits units : Nat} (hpos : 0 < bits) (hfin : bits < infinityBits)
    (hholds : (Binary64.ofBits bits).interval.holds (4 * units) = true) :
    10 ^ 674 < units ∧ units < 10 ^ 1474 := by
  obtain ⟨hbits, hsig, hsig53, hnormal⟩ := Binary64.ofBits_bits hpos
  set v := Binary64.ofBits bits
  rw [RoundingInterval.holds_iff, Binary64.interval_eq] at hholds
  obtain ⟨hlow, hhigh, -⟩ := hholds
  dsimp only at hlow hhigh
  have hbelow := Nat.mul_le_mul_right v.unit v.below_le
  have hunit : 1 * v.unit ≤ v.significand * v.unit := Nat.mul_le_mul_right v.unit hsig
  have hsigunit : v.significand * v.unit ≤ 2 ^ 53 * v.unit := Nat.mul_le_mul_right v.unit hsig53.le
  have hpower : v.power ≤ 2046 := by
    rw [infinityBits_eq] at hfin
    omega
  have hleast : ∀ k : Nat, 5 ^ k ≤ 2 ^ v.power * 5 ^ k := fun k =>
    Nat.le_mul_of_pos_left _ (Nat.two_pow_pos _)
  have hlargest : ∀ p k : Nat, v.power ≤ p → 2 ^ v.power * 5 ^ k ≤ 2 ^ p * 5 ^ k := fun p k hp =>
    Nat.mul_le_mul_right _ (Nat.pow_le_pow_right (by decide) hp)
  have hfive : 5 ^ 1074 ≤ v.unit := hleast 1074
  have htwo : v.unit ≤ 2 ^ 2046 * 5 ^ 1074 := hlargest 2046 1074 hpower
  have hsmall : 2 * 10 ^ 674 < 5 ^ 1074 := by decide +kernel
  have hlarge : 2 ^ 54 * (2 ^ 2046 * 5 ^ 1074) < 10 ^ 1474 := by decide +kernel
  constructor
  · omega
  · omega

end CircuitBench.Number
