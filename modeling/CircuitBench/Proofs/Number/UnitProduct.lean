import CircuitBench.Proofs.Number.FloatBits

/-!
# Products with one

Multiplying a finite float by one gives the float back (`ofMagnitude_mul_one`). The exact product is
the significand with zeros behind it, which rounding drops again (`roundWithAccuracy_shifted`); both
ways the significand has the exponent that its size asks for.
-/

namespace CircuitBench.Number

open Float.Model (Format UnpackedFloat totalExponent)
open Float.Model.UnpackedFloat

/-! ### Rounding -/

/-- Zeros behind a significand are dropped without a trace. -/
lemma shiftRight_shifted (mantissa k : Nat) :
    (⟨mantissa * 2 ^ k, false, false⟩ : ExtendedMantissa) >>> k = ⟨mantissa, false, false⟩ := by
  change k.repeat ExtendedMantissa.shiftRightOne _ = _
  induction k generalizing mantissa with
  | zero => simp [Nat.repeat]
  | succ k ih =>
    have hdouble : mantissa * 2 ^ (k + 1) = mantissa * 2 * 2 ^ k := by
      rw [pow_succ]
      ring
    rw [Nat.repeat, hdouble, ih]
    simp [ExtendedMantissa.shiftRightOne]

/-- A significand with zeros behind it is as much longer. -/
lemma log2_mul_two_pow {m : Nat} (h : 0 < m) (k : Nat) : (m * 2 ^ k).log2 = m.log2 + k := by
  have hpos : 0 < m * 2 ^ k := Nat.mul_pos h (Nat.two_pow_pos k)
  rw [Nat.log2_eq_iff hpos.ne', pow_add, Nat.add_right_comm, pow_add]
  constructor
  · exact Nat.mul_le_mul_right _ (Nat.log2_self_le h.ne')
  · exact Nat.mul_lt_mul_of_pos_right Nat.lt_log2_self (Nat.two_pow_pos k)

/-- Rounding a significand with zeros behind it drops them, when it has the exponent that its size
asks for. -/
lemma roundWithAccuracy_shifted (spec : Format) (sign : Sign) {mantissa : Nat} {exponent : Int}
    (hpos : 0 < mantissa)
    (h : spec.targetExponent (totalExponent mantissa exponent) = exponent) (k : Nat) :
    roundWithAccuracy spec sign (mantissa * 2 ^ k) (exponent - k) .exact =
      .finite sign mantissa exponent hpos := by
  have hshift : ∀ j : Nat, shiftToTargetExponent spec (mantissa * 2 ^ j) (exponent - j) .exact =
      (⟨mantissa, false, false⟩, exponent) := by
    intro j
    have htotal : totalExponent (mantissa * 2 ^ j) (exponent - j) =
        totalExponent mantissa exponent := by
      rw [totalExponent, totalExponent, log2_mul_two_pow hpos]
      omega
    have hamount : (exponent - (exponent - j)).toNat = j := by omega
    rw [shiftToTargetExponent, htotal, h, shiftToExponent, hamount,
      ExtendedMantissa.ofMantissaAndAccuracy, shiftRight_shifted]
    simp
  have hzero := hshift 0
  rw [pow_zero, Nat.mul_one, Nat.cast_zero, Int.sub_zero] at hzero
  unfold roundWithAccuracy
  rw [hshift k]
  simp only [ExtendedMantissa.roundedMantissa, ExtendedMantissa.accuracy,
    Accuracy.roundToNearestEven, hzero]
  rw [dif_neg hpos.ne']

/-! ### Products -/

/-- The bits of one. -/
def oneBits : Nat := 1023 * 2 ^ 52

/-- One, unpacked. -/
lemma unpack_one : unpack Format.binary64 (UInt64.ofNat oneBits).toBitVec =
    .finite .positive (2 ^ 52) (-52) (by decide) := by
  have hexp : exponentField (UInt64.ofNat oneBits).toBitVec ≠ -1#11 := by decide
  rw [unpack_eq _ hexp]
  rfl

/-- The exact product of a finite unpacked float with one is rounded to the float. -/
lemma mul_one_of_exponentField {b : BitVec 64} (h : exponentField b ≠ -1#11) :
    mul Format.binary64 (unpack Format.binary64 b)
      (unpack Format.binary64 (UInt64.ofNat oneBits).toBitVec) = unpack Format.binary64 b := by
  have hm := (mantissaField b).isLt
  have he := (exponentField b).isLt
  have hsign : ∀ s : Sign, s * .positive = s := by
    rintro (_ | _) <;> rfl
  have hround : ∀ (s : Sign) (m : Nat) (e : Int) (hpos : 0 < m),
      Format.binary64.targetExponent (totalExponent m e) = e →
      mul Format.binary64 (.finite s m e hpos) (.finite .positive (2 ^ 52) (-52) (by decide)) =
        .finite s m e hpos := by
    intro s m e hpos htarget
    rw [mul, hsign]
    exact roundWithAccuracy_shifted Format.binary64 s hpos htarget 52
  rw [unpack_one, unpack_eq b h]
  split_ifs with h0 hp
  · have hlog : (mantissaField b).toNat.log2 < 52 := (Nat.log2_lt hp.ne').2 hm
    apply hround
    simp [totalExponent, Format.targetExponent, Format.minExponent, Format.mantissaBits]
    omega
  · rw [mul, hsign]
  · have hlog : (1#1 ++ mantissaField b).toNat.log2 = 52 := by
      rw [toNat_one_append]
      exact (Nat.log2_eq_iff (by omega)).2 ⟨by omega, by omega⟩
    have hpos : 0 < (exponentField b).toNat := by
      rw [Nat.pos_iff_ne_zero]
      exact fun h' => h0 (BitVec.eq_of_toNat_eq (by simpa using h'))
    apply hround
    simp [totalExponent, Format.targetExponent, Format.minExponent, Format.mantissaBits, hlog]
    omega

/-- The product of a finite magnitude with one is the magnitude. -/
lemma ofMagnitude_mul_one {bits : Nat} (h : bits < infinityBits) :
    ofMagnitude false bits * ofMagnitude false oneBits = ofMagnitude false bits := by
  have hexpOf : ∀ n : Nat, n < infinityBits → exponentField (UInt64.ofNat n).toBitVec ≠ -1#11 := by
    intro n hn
    have hnat : (UInt64.ofNat n).toBitVec.toNat = n := @toNat_signed false n hn
    apply exponentField_ne_of_lt
    rw [hnat]
    rw [infinityBits_eq] at hn ⊢
    omega
  have hpackOf : ∀ n : Nat, n < infinityBits → pack Format.binary64
      (unpack Format.binary64 (UInt64.ofNat n).toBitVec) = (UInt64.ofNat n).toBitVec :=
    fun n hn => pack_unpack _ (hexpOf n hn)
  change Float.ofModel (Float.Model.pack (mul Format.binary64
      (unpack Format.binary64
        (pack Format.binary64 (unpack Format.binary64 (UInt64.ofNat bits).toBitVec)))
      (unpack Format.binary64 (pack Format.binary64
        (unpack Format.binary64 (UInt64.ofNat oneBits).toBitVec))))) =
    Float.ofModel (Float.Model.pack (unpack Format.binary64 (UInt64.ofNat bits).toBitVec))
  rw [hpackOf bits h, hpackOf oneBits (by decide), mul_one_of_exponentField (hexpOf bits h)]

end CircuitBench.Number
