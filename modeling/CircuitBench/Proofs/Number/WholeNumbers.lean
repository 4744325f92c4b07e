import Mathlib
import CircuitBench.Proofs.Number.FloatBits
import CircuitBench.Proofs.Number.PlainText
import CircuitBench.Proofs.Number.Rounding
import CircuitBench.Proofs.Number.UnitProduct

/-!
# Whole numbers as floats

A float has 53 significant bits, so a whole number of more bits is rounded to a multiple of a power
of two (`roundedWhole`), and from `overflowBound`, half a unit above the largest float, to infinity.
What a float is exactly is a rational number, its `exactValue`; it is compared with the whole number
that the float is taken for (`exactValue_eq_natCast_iff`, `exactValue_nearestBits`).
-/

namespace CircuitBench.Number

/-! ### Digits -/

/-- The bound of signed 64-bit numbers is a power of two. -/
lemma signed64_eq : signed64 = 2 ^ 63 := rfl

/-- So is that of unsigned ones. -/
lemma word64_eq : word64 = 2 ^ 64 := rfl

/-- The digits of a text, without a plus sign in front. -/
def unsigned : List Char → List Char
  | '+' :: rest => rest
  | cs => cs

/-- A run of digits has no sign in front. -/
lemma unsigned_of_isDigits {ds : List Char} (h : isDigits ds = true) : unsigned ds = ds := by
  unfold unsigned
  split
  · cases h
  · rfl

/-- A natural number is read from digits with an optional plus sign that denote a number below the
bound. -/
lemma readNat?_eq_ite (bound : Nat) (cs : List Char) :
    readNat? bound cs =
      if isDigits (unsigned cs) = true ∧ digitsValue (unsigned cs) < bound then
        some (digitsValue (unsigned cs))
      else none := by
  unfold readNat? unsigned
  split
  · simp only [Bool.and_eq_true, decide_eq_true_eq]
  · simp only [Bool.and_eq_true, decide_eq_true_eq]

/-- A run of digits is read as an integer when its number is below the bound. -/
lemma readInt?_of_isDigits (bound : Nat) {ds : List Char} (h : isDigits ds = true) :
    readInt? bound ds = if digitsValue ds < bound then some (digitsValue ds : Int) else none := by
  have hnat : readInt? bound ds = (readNat? bound ds).map Int.ofNat := by
    unfold readInt?
    split
    · cases h
    · rfl
  rw [hnat, readNat?_eq_ite, unsigned_of_isDigits h]
  simp only [h, true_and]
  split_ifs <;> rfl

/-! ### Rounding -/

/-- A common factor does not change how a quotient is rounded. -/
lemma roundHalfEven_mul_right (a d : Nat) {k : Nat} (hk : 0 < k) :
    roundHalfEven (a * k) (d * k) = roundHalfEven a d := by
  have hscale : ∀ x y : Nat, 2 * (x * k) < y * k ↔ 2 * x < y := fun x y => by
    rw [← Nat.mul_assoc, Nat.mul_lt_mul_right hk]
  have hscale' : ∀ x y : Nat, x * k < 2 * (y * k) ↔ x < 2 * y := fun x y => by
    rw [← Nat.mul_assoc, Nat.mul_lt_mul_right hk]
  unfold roundHalfEven
  simp only [Nat.mul_div_mul_right _ _ hk, Nat.mul_mod_mul_right, hscale, hscale']

/-- Rounding goes down to the whole part at most. -/
lemma le_roundHalfEven (a d : Nat) : a / d ≤ roundHalfEven a d := by
  unfold roundHalfEven
  dsimp only
  split_ifs <;> omega

/-- Multiples of the divisor are not rounded. -/
lemma roundHalfEven_of_dvd {a d : Nat} (hd : 0 < d) (h : d ∣ a) : roundHalfEven a d = a / d := by
  unfold roundHalfEven
  simp only [Nat.mod_eq_zero_of_dvd h, Nat.mul_zero, if_pos hd]

/-- A quotient is rounded below an even number exactly when it is more than a half away from it. -/
lemma roundHalfEven_lt_iff {a d m : Nat} (hd : 0 < d) (hm : 0 < m) :
    roundHalfEven a (2 * d) < 2 * m ↔ a < (4 * m - 1) * d := by
  have hdiv : 2 * d * (a / (2 * d)) + a % (2 * d) = a := Nat.div_add_mod a (2 * d)
  have hmod : a % (2 * d) < 2 * d := Nat.mod_lt a (by omega)
  unfold roundHalfEven
  dsimp only
  generalize a / (2 * d) = q at hdiv ⊢
  generalize a % (2 * d) = r at hdiv hmod ⊢
  subst hdiv
  obtain ⟨k, rfl⟩ : ∃ k, m = k + 1 := ⟨m - 1, by omega⟩
  have hbound : (4 * (k + 1) - 1) * d = 2 * d * (2 * k + 1) + d := by
    rw [show 4 * (k + 1) - 1 = 2 * (2 * k + 1) + 1 by omega]
    ring
  rw [hbound]
  obtain hlt | rfl | hgt := Nat.lt_trichotomy q (2 * k + 1)
  · have hle : 2 * d * (q + 1) ≤ 2 * d * (2 * k + 1) := Nat.mul_le_mul_left _ hlt
    rw [Nat.mul_add, Nat.mul_one] at hle
    split_ifs <;> omega
  · split_ifs <;> omega
  · have hle : 2 * d * (2 * k + 1 + 1) ≤ 2 * d * q := Nat.mul_le_mul_left _ hgt
    rw [Nat.mul_add, Nat.mul_one] at hle
    split_ifs <;> omega

/-! ### Floats that are whole numbers -/

/-- The number that a finite float is. -/
def exactValue (x : Float) : ℚ :=
  let v := Binary64.ofBits (magnitudeBits x)
  (if isNegative x then -1 else 1) * (v.significand * 2 ^ v.power : ℕ) / (2 ^ 1074 : ℕ)

/-- The whole number that a float is up to its sign, in units of the smallest float. -/
lemma wholeMagnitude?_eq_some_iff {x : Float} {n : Nat} :
    wholeMagnitude? x = some n ↔ isFinite x = true ∧
      (Binary64.ofBits (magnitudeBits x)).significand *
        2 ^ (Binary64.ofBits (magnitudeBits x)).power = n * 2 ^ 1074 := by
  have hpow : ∀ k : Nat, Nat.pow 2 k = 2 ^ k := fun _ => Nat.pow_eq
  have hpos := Nat.two_pow_pos 1074
  unfold wholeMagnitude?
  dsimp only
  simp only [hpow]
  generalize 2 ^ 1074 = one at hpos ⊢
  generalize (Binary64.ofBits (magnitudeBits x)).significand *
    2 ^ (Binary64.ofBits (magnitudeBits x)).power = units
  simp only [Bool.and_eq_true, decide_eq_true_eq]
  constructor
  · intro h
    split_ifs at h with hwhole
    obtain rfl := Option.some.inj h
    exact ⟨hwhole.1, (Nat.div_mul_cancel (Nat.dvd_of_mod_eq_zero hwhole.2)).symm⟩
  · rintro ⟨hfinite, rfl⟩
    rw [if_pos ⟨hfinite, Nat.mul_mod_left _ _⟩, Nat.mul_div_cancel _ hpos]

/-- A finite float is a whole number when its magnitude is one, and its sign does not count or does
not stand. -/
lemma exactValue_eq_natCast_iff {x : Float} (hfinite : isFinite x = true) {n : Nat} :
    exactValue x = n ↔ wholeMagnitude? x = some n ∧ (isNegative x = true → n = 0) := by
  have hpos : ((2 ^ 1074 : ℕ) : ℚ) ≠ 0 := Nat.cast_ne_zero.2 (Nat.two_pow_pos 1074).ne'
  rw [wholeMagnitude?_eq_some_iff, exactValue, div_eq_iff hpos]
  generalize 2 ^ 1074 = one at hpos ⊢
  generalize (Binary64.ofBits (magnitudeBits x)).significand *
    2 ^ (Binary64.ofBits (magnitudeBits x)).power = units
  have hone : one ≠ 0 := Nat.cast_ne_zero.1 hpos
  cases isNegative x with
  | false =>
    rw [if_neg Bool.false_ne_true, one_mul, ← Nat.cast_mul, Nat.cast_inj]
    simp [hfinite]
  | true =>
    rw [if_pos rfl, neg_one_mul, ← Nat.cast_mul, neg_eq_iff_add_eq_zero, ← Nat.cast_add,
      Nat.cast_eq_zero, Nat.add_eq_zero_iff, Nat.mul_eq_zero]
    constructor
    · rintro ⟨rfl, h⟩
      obtain rfl := h.resolve_right hone
      exact ⟨⟨hfinite, (Nat.zero_mul _).symm⟩, fun _ => rfl⟩
    · rintro ⟨⟨-, h⟩, hn⟩
      obtain rfl := hn rfl
      exact ⟨h.trans (Nat.zero_mul _), Or.inl rfl⟩

/-! ### The float nearest to a whole number -/

/-- The power of two in whose multiples a whole number is rounded. -/
def wholePower (n : Nat) : Nat :=
  Nat.log2 n - 52

/-- A whole number rounded to 53 significant bits. -/
def roundedWhole (n : Nat) : Nat :=
  roundHalfEven n (2 ^ wholePower n) * 2 ^ wholePower n

/-- The least whole number that is read as infinity, half a unit above the largest float. -/
def overflowBound : Nat :=
  (2 ^ 54 - 1) * 2 ^ 970

section Nearest

variable {n : Nat}

/-- The rounded significand has 53 bits, or is the power of two above. -/
lemma roundHalfEven_bounds (h : 2 ^ 52 ≤ n) :
    2 ^ 52 ≤ roundHalfEven n (2 ^ wholePower n) ∧ roundHalfEven n (2 ^ wholePower n) ≤ 2 ^ 53 := by
  have hn : n ≠ 0 := by omega
  have hlog : 52 ≤ Nat.log2 n := (Nat.le_log2 hn).2 h
  have hpos : 0 < 2 ^ wholePower n := Nat.two_pow_pos _
  have hlow : 2 ^ 52 * 2 ^ wholePower n ≤ n := by
    rw [← pow_add, wholePower, Nat.add_sub_cancel' hlog]
    exact Nat.log2_self_le hn
  have hhigh : n < 2 ^ 53 * 2 ^ wholePower n := by
    rw [← pow_add, wholePower, show 53 + (n.log2 - 52) = n.log2 + 1 by omega]
    exact Nat.lt_log2_self
  constructor
  · exact ((Nat.le_div_iff_mul_le hpos).2 hlow).trans (le_roundHalfEven _ _)
  · exact (roundHalfEven_le _ _).trans ((Nat.div_lt_iff_lt_mul hpos).2 hhigh)

/-- The bits of the float nearest to a whole number. -/
lemma nearestBits_whole (h : 2 ^ 52 ≤ n) :
    nearestBits n 1 = min ((wholePower n + 1074) * 2 ^ 52 + roundHalfEven n (2 ^ wholePower n))
      infinityBits := by
  have hlog : 52 ≤ Nat.log2 n := (Nat.le_log2 (by omega)).2 h
  have hpower : Nat.log2 (n * 2 ^ 1074 / 1) - 52 = wholePower n + 1074 := by
    rw [Nat.div_one, log2_mul_two_pow (by omega), wholePower]
    omega
  rw [nearestBits_eq_min rfl, hpower, Nat.one_mul, pow_add,
    roundHalfEven_mul_right _ _ (Nat.two_pow_pos _)]

/-- A significand of 53 bits counts its power of two, also when it carries over. -/
lemma ofBits_units {p m : Nat} (hlow : 2 ^ 52 ≤ m) (hhigh : m ≤ 2 ^ 53) :
    (Binary64.ofBits (p * 2 ^ 52 + m)).significand * 2 ^ (Binary64.ofBits (p * 2 ^ 52 + m)).power
      = m * 2 ^ p := by
  rw [Binary64.ofBits_eq, if_neg (by omega)]
  dsimp only
  obtain hlt | rfl := Nat.lt_or_eq_of_le hhigh
  · have hpower : (p * 2 ^ 52 + m) / 2 ^ 52 - 1 = p := by omega
    have hsignificand : (p * 2 ^ 52 + m) % 2 ^ 52 + 2 ^ 52 = m := by omega
    rw [hpower, hsignificand]
  · have hpower : (p * 2 ^ 52 + 2 ^ 53) / 2 ^ 52 - 1 = p + 1 := by omega
    have hsignificand : (p * 2 ^ 52 + 2 ^ 53) % 2 ^ 52 + 2 ^ 52 = 2 ^ 52 := by omega
    rw [hpower, hsignificand]
    ring

/-- A whole number rounds to infinity from the bound on. -/
theorem nearestBits_eq_infinityBits_iff (h : 2 ^ 52 ≤ n) :
    nearestBits n 1 = infinityBits ↔ overflowBound ≤ n := by
  obtain ⟨hlow, hhigh⟩ := roundHalfEven_bounds h
  have hn : n ≠ 0 := by omega
  rw [nearestBits_whole h, min_eq_right_iff, infinityBits_eq, overflowBound]
  obtain hsmall | hlog | hlarge := Nat.lt_trichotomy (Nat.log2 n) 1023
  · -- below the largest power of two even a carry stays finite
    have hpower : wholePower n ≤ 970 := by
      rw [wholePower]
      omega
    refine iff_of_false (by omega) (Nat.not_le.2 ?_)
    exact ((Nat.log2_lt hn).1 hsmall).trans_le
      (by decide +kernel : 2 ^ 1023 ≤ (2 ^ 54 - 1) * 2 ^ 970)
  · have hpower : wholePower n = 970 + 1 := by rw [wholePower, hlog]
    have hiff : ∀ k, roundHalfEven n (2 ^ (k + 1)) < 2 ^ 53 ↔ n < (2 ^ 54 - 1) * 2 ^ k := by
      intro k
      rw [pow_succ' 2 k]
      exact roundHalfEven_lt_iff (m := 2 ^ 52) (Nat.two_pow_pos k) (by decide)
    rw [← Nat.not_lt, ← Nat.not_lt, not_iff_not, hpower]
    refine Iff.trans ?_ (hiff 970)
    omega
  · have hpower : 972 ≤ wholePower n := by
      rw [wholePower]
      omega
    have hge : 2 ^ 1024 ≤ n := (Nat.le_log2 hn).1 hlarge
    refine iff_of_true (by omega) ?_
    exact (by decide +kernel : (2 ^ 54 - 1) * 2 ^ 970 ≤ 2 ^ 1024).trans hge

/-- Below the bound a whole number rounds to a finite float. -/
lemma nearestBits_lt_infinityBits (h : 2 ^ 52 ≤ n) (hbound : n < overflowBound) :
    nearestBits n 1 < infinityBits := by
  refine lt_of_le_of_ne ?_ fun heq => ?_
  · rw [nearestBits_whole h]
    exact min_le_right _ _
  · exact absurd ((nearestBits_eq_infinityBits_iff h).1 heq) (Nat.not_le.2 hbound)

/-- The float nearest to a whole number below the bound is the rounded number. -/
theorem wholeMagnitude?_nearestBits (h : 2 ^ 52 ≤ n) (hbound : n < overflowBound) :
    wholeMagnitude? (ofMagnitude false (nearestBits n 1)) = some (roundedWhole n) := by
  obtain ⟨hlow, hhigh⟩ := roundHalfEven_bounds h
  have hbits := nearestBits_whole h
  have hfinite := nearestBits_lt_infinityBits h hbound
  have hsum : nearestBits n 1
      = (wholePower n + 1074) * 2 ^ 52 + roundHalfEven n (2 ^ wholePower n) := by
    omega
  rw [wholeMagnitude?_eq_some_iff, isFinite, magnitudeBits_ofMagnitude hfinite, hsum,
    ofBits_units hlow hhigh, roundedWhole, pow_add, Nat.mul_assoc]
  exact ⟨decide_eq_true (hsum ▸ hfinite), rfl⟩

/-- What that float is exactly. -/
theorem exactValue_nearestBits (h : 2 ^ 52 ≤ n) (hbound : n < overflowBound) :
    isFinite (ofMagnitude false (nearestBits n 1)) = true ∧
      exactValue (ofMagnitude false (nearestBits n 1)) = roundedWhole n := by
  have hwhole := wholeMagnitude?_nearestBits h hbound
  have hfinite := (wholeMagnitude?_eq_some_iff.1 hwhole).1
  refine ⟨hfinite, (exactValue_eq_natCast_iff hfinite).2 ⟨hwhole, fun hneg => ?_⟩⟩
  rw [isNegative_ofMagnitude (nearestBits_lt_infinityBits h hbound)] at hneg
  exact absurd hneg Bool.false_ne_true

end Nearest

/-! ### Digits as floats -/

/-- A numeral of digits alone has the bits of the float nearest to its number, the cut-off for
numbers far outside the range included. -/
lemma toBits_of_digits {ds : List Char} (h : 2 ^ 52 ≤ digitsValue ds) :
    Numeral.toBits ⟨ds, [], 0⟩ = nearestBits (digitsValue ds) 1 := by
  have hvalue : digitsValue (ds ++ []) = digitsValue ds := by rw [List.append_nil]
  obtain hlong | hshort := Nat.lt_or_ge 400 (natText (digitsValue ds)).length
  · have hlarge : overflowBound ≤ digitsValue ds :=
      (by decide +kernel : overflowBound ≤ 10 ^ 400).trans (pow_le_of_lt_length (by decide) hlong)
    rw [(nearestBits_eq_infinityBits_iff h).2 hlarge]
    unfold Numeral.toBits
    dsimp only
    rw [hvalue, if_neg (by omega), if_pos]
    simpa using hlong
  · exact Numeral.toBits_eq (k := 0) hvalue rfl (by omega) hshort (Nat.zero_le _)

/-- A run of digits is read as the float nearest to its number. -/
theorem readFloat?_of_isDigits {ds : List Char} (hdigits : isDigits ds = true)
    (h : 2 ^ 52 ≤ digitsValue ds) :
    readFloat? ds = some (ofMagnitude false (nearestBits (digitsValue ds) 1)) := by
  have hread : readMagnitude? (ds ++ pointed []) = some (Numeral.toBits ⟨ds, [], 0⟩) :=
    readMagnitude?_pointed hdigits rfl
  rw [pointed, if_pos rfl, List.append_nil, toBits_of_digits h] at hread
  obtain ⟨c, rest, rfl⟩ := List.exists_cons_of_ne_nil (ne_nil_of_isDigits hdigits)
  have hc : c.isDigit = true := List.all_eq_true.1 (all_of_isDigits hdigits) c List.mem_cons_self
  rw [readFloat?_cons_of_isDigit hc, hread, Option.map_some]

end CircuitBench.Number
