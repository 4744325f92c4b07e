import Mathlib
import CircuitBench.Number.Binary64

/-!
# Rounding to the nearest float

A quotient that lies between the ends of a float's rounding interval rounds to that float
(`nearestBits_eq_of_mem`). The ends are half a unit away from it, and a quarter below a power of
two, where the floats lie closer together. An end itself rounds to the float exactly when the
significand is even.
-/

namespace CircuitBench.Number

/-! ### Whole numbers -/

/-- Rounding goes up by less than one. -/
lemma roundHalfEven_le (a d : Nat) : roundHalfEven a d ≤ a / d + 1 := by
  unfold roundHalfEven
  dsimp only
  split_ifs <;> omega

/-- A quotient that lies at most a half away from a whole number rounds to it; exactly a half away
only when that number is even. -/
lemma roundHalfEven_eq {a d m : Nat} (hd : 0 < d) (hlow : 2 * (m * d) ≤ 2 * a + d)
    (hhigh : 2 * a ≤ 2 * (m * d) + d)
    (heven : m % 2 = 1 → 2 * (m * d) < 2 * a + d ∧ 2 * a < 2 * (m * d) + d) :
    roundHalfEven a d = m := by
  have hdiv : d * (a / d) + a % d = a := Nat.div_add_mod a d
  have hmod : a % d < d := Nat.mod_lt a hd
  set q := a / d with hq
  set r := a % d with hr
  -- the rounded quotient is one of the two neighbours of the exact one
  have hmq : q ≤ m := by
    by_contra hlt
    have : (m + 1) * d ≤ q * d := Nat.mul_le_mul_right d (by omega)
    nlinarith
  have hqm : m ≤ q + 1 := by
    by_contra hlt
    have : (q + 2) * d ≤ m * d := Nat.mul_le_mul_right d (by omega)
    nlinarith
  unfold roundHalfEven
  simp only [← hq, ← hr]
  rcases Nat.lt_or_ge q m with hlt | hge
  · obtain rfl : m = q + 1 := by omega
    have h1 : (q + 1) * d = d * q + d := by ring
    rw [h1] at hlow hhigh heven
    split_ifs <;> omega
  · have hm : m = q := by omega
    have h1 : q * d = d * q := by ring
    rw [hm, h1] at hlow hhigh heven
    split_ifs <;> omega

/-! ### Magnitudes -/

/-- The distance from a magnitude to the lower end of its rounding interval, in quarters of a
unit. -/
def Binary64.below (v : Binary64) : Nat :=
  if v.significand = 2 ^ 52 ∧ 0 < v.power then 1 else 2

/-- The lower end is at most half a unit away. -/
lemma Binary64.below_le (v : Binary64) : v.below ≤ 2 := by
  unfold Binary64.below
  split_ifs <;> omega

/-- Above the least power, the lower end of a power of two is a quarter of a unit away. -/
lemma Binary64.below_eq_one (v : Binary64) (hsig : v.significand = 2 ^ 52) (hpower : 0 < v.power) :
    v.below = 1 :=
  if_pos ⟨hsig, hpower⟩

/-- The parts of a magnitude, by the size of its bits. -/
lemma Binary64.ofBits_eq (bits : Nat) :
    Binary64.ofBits bits = if bits < 2 ^ 52 then ⟨bits, 0⟩
      else ⟨bits % 2 ^ 52 + 2 ^ 52, bits / 2 ^ 52 - 1⟩ := rfl

/-- A finite magnitude's parts and its bits. -/
lemma Binary64.ofBits_bits {bits : Nat} (h : 0 < bits) :
    (Binary64.ofBits bits).power * 2 ^ 52 + (Binary64.ofBits bits).significand = bits ∧
      0 < (Binary64.ofBits bits).significand ∧ (Binary64.ofBits bits).significand < 2 ^ 53 ∧
      ((Binary64.ofBits bits).power = 0 ∨ 2 ^ 52 ≤ (Binary64.ofBits bits).significand) := by
  rw [Binary64.ofBits_eq]
  split_ifs with hsmall
  · exact ⟨by dsimp only; omega, h, by dsimp only; omega, Or.inl rfl⟩
  · exact ⟨by dsimp only; omega, by dsimp only; omega, by dsimp only; omega,
      Or.inr (by dsimp only; omega)⟩

/-- The power of two that a rounded quotient is counted in. -/
lemma log2_sub_eq {n p : Nat} (hhigh : n < 2 ^ (53 + p)) (hlow : p = 0 ∨ 2 ^ (52 + p) ≤ n) :
    Nat.log2 n - 52 = p := by
  rcases hlow with rfl | hlow
  · by_cases hn : n = 0
    · simp [hn]
    · have := (Nat.log2_lt hn).2 hhigh
      omega
  · have hn : n ≠ 0 := by
      have := Nat.two_pow_pos (52 + p)
      omega
    have h1 := (Nat.log2_lt hn).2 hhigh
    have h2 := (Nat.le_log2 hn).2 hlow
    omega

/-- The bits of the nearest float, from the quotient in units of the smallest float. -/
lemma nearestBits_eq_min {num den scaled : Nat} (h : scaled = num * 2 ^ 1074) :
    nearestBits num den = min ((Nat.log2 (scaled / den) - 52) * 2 ^ 52 +
      roundHalfEven scaled (den * 2 ^ (Nat.log2 (scaled / den) - 52))) infinityBits := by
  have hpow : ∀ k : Nat, Nat.pow 2 k = 2 ^ k := fun _ => Nat.pow_eq
  have hscaled : num * Nat.pow 2 1074 = scaled := by rw [h, hpow]
  unfold nearestBits
  dsimp only
  rw [hscaled, hpow, hpow]

/-- Rounding at a known power of two. The least power also serves the quotients below it. -/
lemma nearestBits_eq_of_power {num den p m : Nat} (hden : 0 < den)
    (hhigh : num * 2 ^ 1074 < 2 ^ (53 + p) * den)
    (hlow : p = 0 ∨ 2 ^ (52 + p) * den ≤ num * 2 ^ 1074)
    (hround : roundHalfEven (num * 2 ^ 1074) (den * 2 ^ p) = m)
    (hfin : p * 2 ^ 52 + m ≤ infinityBits) :
    nearestBits num den = p * 2 ^ 52 + m := by
  have hlog : Nat.log2 (num * 2 ^ 1074 / den) - 52 = p := by
    apply log2_sub_eq
    · exact (Nat.div_lt_iff_lt_mul hden).2 hhigh
    · exact hlow.imp_right (Nat.le_div_iff_mul_le hden).2
  rw [nearestBits_eq_min rfl, hlog, hround]
  exact Nat.min_eq_left hfin

/-- At most a quarter of a unit below a power of two, a quotient is counted in the next smaller
unit, and rounding carries it over to the power of two. -/
lemma nearestBits_eq_of_carry {num den k : Nat} (hden : 0 < den)
    (hlow : 4 * (2 ^ 53 * (den * 2 ^ k)) ≤ 4 * (num * 2 ^ 1074) + 2 * (den * 2 ^ k))
    (hhigh : num * 2 ^ 1074 < 2 ^ 53 * (den * 2 ^ k))
    (hfin : (k + 1) * 2 ^ 52 + 2 ^ 52 ≤ infinityBits) :
    nearestBits num den = (k + 1) * 2 ^ 52 + 2 ^ 52 := by
  have hcarry : (k + 1) * 2 ^ 52 + 2 ^ 52 = k * 2 ^ 52 + 2 ^ 53 := by ring
  set x := num * 2 ^ 1074
  have hround : roundHalfEven x (den * 2 ^ k) = 2 ^ 53 := by
    apply roundHalfEven_eq (Nat.mul_pos hden (Nat.two_pow_pos k)) <;> omega
  have hpow53 : 2 ^ (53 + k) * den = 2 ^ 53 * (den * 2 ^ k) := by ring
  have hpow52 : 2 ^ (52 + k) * den = 2 ^ 52 * (den * 2 ^ k) := by ring
  rw [hcarry] at hfin ⊢
  refine nearestBits_eq_of_power hden ?_ (Or.inr ?_) hround hfin
  · rwa [hpow53]
  · rw [hpow52]
    omega

/-- A quotient between the ends of a magnitude's rounding interval rounds to it. -/
lemma nearestBits_eq_of_mem {num den : Nat} {v : Binary64} (hden : 0 < den)
    (hsig : v.significand < 2 ^ 53) (hnormal : v.power = 0 ∨ 2 ^ 52 ≤ v.significand)
    (hfin : v.power * 2 ^ 52 + v.significand ≤ infinityBits)
    (hlow : 4 * (v.significand * 2 ^ v.power * den)
      ≤ 4 * (num * 2 ^ 1074) + v.below * (2 ^ v.power * den))
    (hhigh : 4 * (num * 2 ^ 1074)
      ≤ 4 * (v.significand * 2 ^ v.power * den) + 2 * (2 ^ v.power * den))
    (heven : v.significand % 2 = 1 →
      4 * (v.significand * 2 ^ v.power * den)
        < 4 * (num * 2 ^ 1074) + v.below * (2 ^ v.power * den) ∧
      4 * (num * 2 ^ 1074) < 4 * (v.significand * 2 ^ v.power * den) + 2 * (2 ^ v.power * den)) :
    nearestBits num den = v.power * 2 ^ 52 + v.significand := by
  have hbelow2 := v.below_le
  have hb1 := v.below_eq_one
  obtain ⟨s, p⟩ := v
  dsimp only at *
  set b := Binary64.below ⟨s, p⟩
  set x := num * 2 ^ 1074
  set unit := 2 ^ p * den with hunit
  have hupos : 0 < unit := Nat.mul_pos (Nat.two_pow_pos p) hden
  have hs : s * 2 ^ p * den = s * unit := by rw [hunit, Nat.mul_assoc]
  rw [hs] at hlow hhigh heven
  have hbu : b * unit ≤ 2 * unit := Nat.mul_le_mul_right unit hbelow2
  by_cases hedge : 0 < p ∧ x < 2 ^ 52 * unit
  · obtain ⟨hp, hx⟩ := hedge
    -- only a power of two has quotients of its interval below it
    have hs52 : s = 2 ^ 52 := by
      have hle : 2 ^ 52 ≤ s := hnormal.resolve_left (by omega)
      by_contra hne
      have : (2 ^ 52 + 1) * unit ≤ s * unit := Nat.mul_le_mul_right unit (by omega)
      omega
    rw [hb1 hs52 hp] at hlow
    obtain ⟨k, rfl⟩ : ∃ k, p = k + 1 := ⟨p - 1, by omega⟩
    have hhalf : unit = 2 * (den * 2 ^ k) := by rw [hunit]; ring
    subst hs52
    exact nearestBits_eq_of_carry hden (by omega) (by omega) hfin
  · have hpow53 : 2 ^ (53 + p) * den = 2 ^ 53 * unit := by rw [hunit, pow_add, Nat.mul_assoc]
    have hpow52 : 2 ^ (52 + p) * den = 2 ^ 52 * unit := by rw [hunit, pow_add, Nat.mul_assoc]
    have hround : roundHalfEven x unit = s := by
      apply roundHalfEven_eq hupos <;> omega
    have hnext : (s + 1) * unit ≤ 2 ^ 53 * unit := Nat.mul_le_mul_right unit hsig
    rw [Nat.succ_mul] at hnext
    refine nearestBits_eq_of_power hden ?_ ?_ (by rwa [Nat.mul_comm den, ← hunit]) hfin
    · rw [hpow53]
      omega
    · rw [hpow52]
      omega

end CircuitBench.Number
