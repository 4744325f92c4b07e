import Mathlib
import CircuitBench.Number.Binary64

/-!
# Floats and their bits

A finite float is made of a sign and a magnitude (`ofMagnitude_magnitudeBits`), and both come back
from it. Negation changes the sign alone (`neg_ofMagnitude`). The statements are about all finite
floats; they are derived from the packed form, whose three fields are read as numbers.
-/

namespace CircuitBench.Number

open Float.Model (Format UnpackedFloat)
open Float.Model.UnpackedFloat

/-! ### The fields of a packed float -/

/-- The fraction bits of a packed float. -/
def mantissaField (b : BitVec 64) : BitVec 52 :=
  @unpackMantissa Format.binary64 b

/-- The exponent bits of a packed float. -/
def exponentField (b : BitVec 64) : BitVec 11 :=
  @unpackExponent Format.binary64 b

/-- The sign of a packed float. -/
def signField (b : BitVec 64) : Sign :=
  Sign.ofBitVec (@unpackSign Format.binary64 b)

/-- The fraction bits are the low bits. -/
lemma toNat_mantissaField (b : BitVec 64) : (mantissaField b).toNat = b.toNat % 2 ^ 52 := by
  simp [mantissaField, unpackMantissa, BitVec.extractLsb, BitVec.extractLsb',
    Nat.shiftRight_eq_div_pow]

/-- The exponent bits stand above the fraction bits. -/
lemma toNat_exponentField (b : BitVec 64) :
    (exponentField b).toNat = b.toNat / 2 ^ 52 % 2 ^ 11 := by
  simp [exponentField, unpackExponent, BitVec.extractLsb, BitVec.extractLsb',
    Nat.shiftRight_eq_div_pow]

/-- The sign is the highest bit. -/
lemma toNat_signField (b : BitVec 64) : (signField b).toBitVec.toNat = b.toNat / 2 ^ 63 := by
  have hb := b.isLt
  have hsign : ∀ s : BitVec 1, (Sign.ofBitVec s).toBitVec = s := by decide
  rw [signField, hsign]
  simp [unpackSign, BitVec.extractLsb, BitVec.extractLsb', Nat.shiftRight_eq_div_pow]
  omega

/-- The value of packed fields. -/
lemma toNat_packComponents (s : Sign) (e : BitVec 11) (m : BitVec 52) :
    (packComponents Format.binary64 s e m).toNat
      = s.toBitVec.toNat * 2 ^ 63 + e.toNat * 2 ^ 52 + m.toNat := by
  have he := e.isLt
  have hm := m.isLt
  simp only [packComponents, BitVec.toNat_append]
  rw [← Nat.shiftLeft_add_eq_or_of_lt hm, ← Nat.shiftLeft_add_eq_or_of_lt he]
  simp only [Nat.shiftLeft_eq]
  ring

/-- A packed float is made of its fields. -/
lemma packComponents_fields (b : BitVec 64) :
    packComponents Format.binary64 (signField b) (exponentField b) (mantissaField b) = b := by
  have hb := b.isLt
  apply BitVec.eq_of_toNat_eq
  rw [toNat_packComponents, toNat_signField, toNat_exponentField, toNat_mantissaField]
  omega

/-- The significand of a normal float, the implicit bit included. -/
lemma toNat_one_append (m : BitVec 52) : (1#1 ++ m).toNat = 2 ^ 52 + m.toNat := by
  rw [BitVec.toNat_append, ← Nat.shiftLeft_add_eq_or_of_lt m.isLt]
  rfl

/-! ### Unpacking and packing again -/

/-- The unpacked form by fields: below the least exponent a subnormal float or a zero, else a normal
float. -/
lemma unpack_eq (b : BitVec 64) (h : exponentField b ≠ -1#11) :
    unpack Format.binary64 b =
      if exponentField b = 0#11 then
        if hm : 0 < (mantissaField b).toNat then
          .finite (signField b) (mantissaField b).toNat (-1074) hm
        else .zero (signField b)
      else .finite (signField b) (1#1 ++ mantissaField b).toNat ((exponentField b).toNat - 1075)
        (by rw [toNat_one_append]; omega) := by
  unfold unpack
  simp only [exponentField, mantissaField, signField] at *
  by_cases h0 : @unpackExponent Format.binary64 b = 0#11
  · by_cases hz : @unpackMantissa Format.binary64 b = 0#52
    · simp [h0, hz]
    · have hp : 0 < (@unpackMantissa Format.binary64 b).toNat := by
        simpa [BitVec.toNat_pos, BitVec.pos_iff_ne_zero] using hz
      simp [h0, hz, hp, Format.exponentBias]
  · have h' : @unpackExponent Format.binary64 b ≠ 2047#11 := h
    simp [h', h0, Format.exponentBias]

/-- Packing undoes unpacking where the exponent is not the one of infinities and NaN. -/
lemma pack_unpack (b : BitVec 64) (h : exponentField b ≠ -1#11) :
    pack Format.binary64 (unpack Format.binary64 b) = b := by
  have hm := (mantissaField b).isLt
  have he := (exponentField b).isLt
  have hne : (exponentField b).toNat ≠ 2047 := fun h' =>
    h (BitVec.eq_of_toNat_eq (by simpa using h'))
  conv_rhs => rw [← packComponents_fields b]
  rw [unpack_eq b h]
  split_ifs with h0 hp
  · have hlog : (mantissaField b).toNat.log2 < 52 := (Nat.log2_lt hp.ne').2 hm
    simp [pack, h0, Format.mantissaBits, Format.exponentBias]
    intro hcontra
    omega
  · have hz : mantissaField b = 0#52 := BitVec.eq_of_toNat_eq (by simpa using hp)
    simp only [pack, packedZero, h0, hz]
    rfl
  · have hlog : (1#1 ++ mantissaField b).toNat.log2 = 52 := by
      rw [toNat_one_append]
      exact (Nat.log2_eq_iff (by omega)).2 ⟨by omega, by omega⟩
    have hmant : BitVec.setWidth 52 (1#1 ++ mantissaField b) = mantissaField b := by
      apply BitVec.eq_of_toNat_eq
      rw [BitVec.toNat_setWidth, toNat_one_append]
      omega
    have hexp : (((exponentField b).toNat : Int) - 1075 + 1023 + 52).toNat
        = (exponentField b).toNat := by omega
    simp [pack, Format.mantissaBits, Format.exponentBias, hlog]
    rw [hexp, if_neg (by omega), hmant, BitVec.ofNat_toNat, BitVec.setWidth_eq]

/-- A float with the other sign unpacks to the negative. -/
lemma unpack_of_other_sign {b b' : BitVec 64} (h : exponentField b ≠ -1#11)
    (hm : mantissaField b' = mantissaField b) (he : exponentField b' = exponentField b)
    (hs : signField b' = -signField b) :
    unpack Format.binary64 b' = (unpack Format.binary64 b).neg := by
  rw [unpack_eq b h, unpack_eq b' (by rwa [he])]
  simp only [hm, he, hs]
  split_ifs <;> rfl

/-! ### Bits of finite floats -/

/-- The magnitude is what stands below the sign. -/
lemma magnitudeBits_eq (x : Float) : magnitudeBits x = x.toBits.toNat % 2 ^ 63 := rfl

/-- The sign is the highest bit. -/
lemma isNegative_eq (x : Float) : isNegative x = decide (2 ^ 63 ≤ x.toBits.toNat) := rfl

/-- A float of parts has the sign above its magnitude. -/
lemma ofMagnitude_eq (negative : Bool) (bits : Nat) :
    ofMagnitude negative bits =
      Float.ofBits (UInt64.ofNat (if negative then bits + 2 ^ 63 else bits)) := rfl

/-- Bits below infinity, the sign left out, do not have the last exponent. -/
lemma exponentField_ne_of_lt {b : BitVec 64} (h : b.toNat % 2 ^ 63 < infinityBits) :
    exponentField b ≠ -1#11 := by
  intro h'
  have h2 : b.toNat / 2 ^ 52 % 2 ^ 11 = 2047 := by
    rw [← toNat_exponentField, h']
    rfl
  rw [infinityBits_eq] at h
  omega

/-- Bits below infinity come back from the float that they make. -/
lemma toBits_ofBits {n : UInt64} (h : n.toNat % 2 ^ 63 < infinityBits) :
    (Float.ofBits n).toBits = n := by
  apply UInt64.toBitVec_inj.1
  exact pack_unpack n.toBitVec (exponentField_ne_of_lt h)

/-- A finite float is the float that its bits make. -/
lemma ofBits_toBits {x : Float} (h : isFinite x = true) : Float.ofBits x.toBits = x := by
  have hx : x.toBits.toNat % 2 ^ 63 < infinityBits := of_decide_eq_true h
  have hinj : ∀ y : Float, y.toBits = x.toBits → y = x := by
    rintro ⟨⟨b, hb⟩⟩ hy
    obtain ⟨⟨b', hb'⟩⟩ := x
    change b = b' at hy
    subst hy
    rfl
  exact hinj _ (toBits_ofBits hx)

/-- The bits that a sign and a magnitude are packed into. -/
lemma toNat_signed {negative : Bool} {bits : Nat} (h : bits < infinityBits) :
    (UInt64.ofNat (if negative then bits + 2 ^ 63 else bits)).toNat
      = if negative then bits + 2 ^ 63 else bits := by
  rw [infinityBits_eq] at h
  rw [UInt64.toNat_ofNat']
  split_ifs <;> omega

/-- The bits of a finite float that is made of its parts. -/
lemma toBits_ofMagnitude {negative : Bool} {bits : Nat} (h : bits < infinityBits) :
    (ofMagnitude negative bits).toBits.toNat = if negative then bits + 2 ^ 63 else bits := by
  rw [ofMagnitude_eq, toBits_ofBits, toNat_signed h]
  rw [toNat_signed h]
  rw [infinityBits_eq] at *
  split_ifs <;> omega

/-- The magnitude of a finite float that is made of its parts. -/
@[simp] lemma magnitudeBits_ofMagnitude {negative : Bool} {bits : Nat} (h : bits < infinityBits) :
    magnitudeBits (ofMagnitude negative bits) = bits := by
  rw [magnitudeBits_eq, toBits_ofMagnitude h]
  rw [infinityBits_eq] at h
  split_ifs <;> omega

/-- The sign of a finite float that is made of its parts. -/
@[simp] lemma isNegative_ofMagnitude {negative : Bool} {bits : Nat} (h : bits < infinityBits) :
    isNegative (ofMagnitude negative bits) = negative := by
  rw [isNegative_eq, toBits_ofMagnitude h]
  rw [infinityBits_eq] at h
  cases negative <;> simp
  omega

/-- A finite float is made of its sign and its magnitude. -/
lemma ofMagnitude_magnitudeBits {x : Float} (h : isFinite x = true) :
    ofMagnitude (isNegative x) (magnitudeBits x) = x := by
  conv_rhs => rw [← ofBits_toBits h]
  have hx := x.toBits.toNat_lt
  rw [ofMagnitude_eq, magnitudeBits_eq, isNegative_eq]
  congr 1
  apply UInt64.toNat_inj.1
  rw [UInt64.toNat_ofNat']
  by_cases hs : 2 ^ 63 ≤ x.toBits.toNat
  · rw [if_pos (by simpa using hs)]
    omega
  · rw [if_neg (by simpa using hs)]
    omega

/-- The negative of a finite float has the same magnitude. -/
lemma neg_ofMagnitude {bits : Nat} (h : bits < infinityBits) :
    -ofMagnitude false bits = ofMagnitude true bits := by
  have hf := @toNat_signed false bits h
  have ht := @toNat_signed true bits h
  set b : UInt64 := UInt64.ofNat bits with hb
  set b' : UInt64 := UInt64.ofNat (bits + 2 ^ 63) with hb'
  have hbn : b.toBitVec.toNat = bits := hf
  have hbn' : b'.toBitVec.toNat = bits + 2 ^ 63 := ht
  have hfin : b.toBitVec.toNat % 2 ^ 63 < infinityBits := by
    rw [hbn]; rw [infinityBits_eq] at *; omega
  have hexp := exponentField_ne_of_lt hfin
  -- packing undoes unpacking, so both sides pack the unpacked bits of the other sign
  have hpack : pack Format.binary64 (unpack Format.binary64 b.toBitVec) = b.toBitVec :=
    pack_unpack _ hexp
  have hneg : unpack Format.binary64 b'.toBitVec = (unpack Format.binary64 b.toBitVec).neg := by
    apply unpack_of_other_sign hexp
    · apply BitVec.eq_of_toNat_eq
      rw [toNat_mantissaField, toNat_mantissaField, hbn, hbn']
      omega
    · apply BitVec.eq_of_toNat_eq
      rw [toNat_exponentField, toNat_exponentField, hbn, hbn']
      omega
    · have hsign : ∀ s s' : Sign, s'.toBitVec.toNat = 1 - s.toBitVec.toNat → s' = -s := by
        rintro (_ | _) (_ | _) h <;> first | rfl | exact absurd h (by decide)
      apply hsign
      rw [toNat_signField, toNat_signField, hbn, hbn']
      rw [infinityBits_eq] at h
      omega
  change Float.ofModel (Float.Model.pack
      (unpack Format.binary64 (pack Format.binary64 (unpack Format.binary64 b.toBitVec))).neg)
    = Float.ofModel (Float.Model.pack (unpack Format.binary64 b'.toBitVec))
  rw [hpack, hneg]

end CircuitBench.Number
