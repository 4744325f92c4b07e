import Mathlib
import CircuitBench.Results.Cell
import CircuitBench.Proofs.Number.WholeNumbers

/-!
# Counts

Digits are read as an integer cell as long as their number stays below `2 ^ 63`, and as a float cell
from there on. The count of an integer cell is its number. The count of a float cell is the float,
and that of a float beyond `2 ^ 64` is the largest count there is
(`Cell.countOfFloat?_eq_some_iff`): first digits are lost and then the number is. The same digits
kept as a text are counted exactly or not at all.

`countsDigits_and_floats` tells which digits and floats are counted exactly, and `count_not_exact`
has a number that is counted as another one.
-/

namespace CircuitBench

open Number (isDigits digitsValue isFinite exactValue overflowBound roundHalfEven)

/-! ### The cells of digits -/

section Digits

variable {ds : List Char}

/-- Digits have no blanks at their ends. -/
lemma trim_of_isDigits (h : isDigits ds = true) : Text.trim ds = ds := by
  refine (Text.isTrimmed_of_all fun c hc => Text.isBlank_of_isDigit ?_).trim_eq
  exact List.all_eq_true.1 (Number.all_of_isDigits h) c hc

/-- Digits below `2 ^ 63` are an integer. -/
lemma Cell.infer_of_lt (h : isDigits ds = true) (hlt : digitsValue ds < 2 ^ 63) :
    Cell.infer ds = .int (digitsValue ds) := by
  have hne : ds.isEmpty = false := by simpa using Number.ne_nil_of_isDigits h
  have hread : Number.readInt? Number.signed64 ds = some (digitsValue ds : Int) := by
    rw [Number.readInt?_of_isDigits _ h, Number.signed64_eq, if_pos hlt]
  unfold Cell.infer
  simp only [trim_of_isDigits h, hne, hread, Bool.false_eq_true, if_false]

/-- Digits from `2 ^ 63` on are the float nearest to their number. -/
lemma Cell.infer_of_le (h : isDigits ds = true) (hle : 2 ^ 63 ≤ digitsValue ds) :
    Cell.infer ds = .float (Number.ofMagnitude false (Number.nearestBits (digitsValue ds) 1)) := by
  have hne : ds.isEmpty = false := by simpa using Number.ne_nil_of_isDigits h
  have hread : Number.readInt? Number.signed64 ds = none := by
    rw [Number.readInt?_of_isDigits _ h, Number.signed64_eq, if_neg (Nat.not_lt.2 hle)]
  have hfloat := Number.readFloat?_of_isDigits h (by omega)
  unfold Cell.infer
  simp only [trim_of_isDigits h, hne, hread, hfloat, Bool.false_eq_true, if_false]

/-- Digits that are kept as a text are counted exactly, or not at all from `2 ^ 64` on. -/
lemma Cell.toCount?_verbatim (h : isDigits ds = true) :
    (Cell.verbatim ds).toCount? =
      if digitsValue ds < 2 ^ 64 then some (digitsValue ds) else none := by
  have hne : ds.isEmpty = false := by simpa using Number.ne_nil_of_isDigits h
  have htext : Cell.verbatim ds = .text (String.ofList ds) := by
    unfold Cell.verbatim
    simp only [trim_of_isDigits h, hne, Bool.false_eq_true, if_false]
  rw [htext, Cell.toCount?, String.toList_ofList, Number.readNat?_eq_ite,
    Number.unsigned_of_isDigits h, Number.word64_eq]
  simp only [h, true_and]

end Digits

/-! ### The count of a float -/

/-- The count of a float is the whole number that the float is, or the largest count if that is
less. -/
theorem Cell.countOfFloat?_eq_some_iff {x : Float} {m : Nat} :
    Cell.countOfFloat? x = some m ↔
      ∃ n : ℕ, isFinite x = true ∧ exactValue x = n ∧ m = min n (2 ^ 64 - 1) := by
  unfold Cell.countOfFloat?
  rw [Number.word64_eq]
  constructor
  · intro h
    cases hwhole : Number.wholeMagnitude? x with
    | none =>
      rw [hwhole] at h
      cases h
    | some n =>
      rw [hwhole] at h
      dsimp only at h
      split_ifs at h with hsign
      have hfinite := (Number.wholeMagnitude?_eq_some_iff.1 hwhole).1
      refine ⟨n, hfinite, (Number.exactValue_eq_natCast_iff hfinite).2 ⟨hwhole, fun hneg => ?_⟩, ?_⟩
      · simpa [hneg] using hsign
      · exact (Option.some.inj h).symm
  · rintro ⟨n, hfinite, hvalue, rfl⟩
    obtain ⟨hwhole, hsign⟩ := (Number.exactValue_eq_natCast_iff hfinite).1 hvalue
    rw [hwhole]
    dsimp only
    rw [if_neg (by simpa using hsign)]

/-- The count of a float is the float itself when that is below `2 ^ 64`. -/
lemma exactValue_eq_count_iff {x : Float} {m : Nat} (h : Cell.countOfFloat? x = some m) :
    exactValue x = m ↔ exactValue x < 2 ^ 64 := by
  obtain ⟨n, -, hvalue, rfl⟩ := Cell.countOfFloat?_eq_some_iff.1 h
  rw [hvalue]
  norm_cast
  omega

/-! ### The count of digits -/

/-- Digits from `2 ^ 63` on are counted as their number rounded to 53 bits, or as the largest count
if that is less, and not at all when the float is infinite. -/
theorem Cell.toCount?_infer {ds : List Char} (h : isDigits ds = true)
    (hle : 2 ^ 63 ≤ digitsValue ds) :
    (Cell.infer ds).toCount? = if digitsValue ds < overflowBound then
      some (min (Number.roundedWhole (digitsValue ds)) (2 ^ 64 - 1)) else none := by
  have hle52 : 2 ^ 52 ≤ digitsValue ds := by omega
  rw [Cell.infer_of_le h hle, Cell.toCount?]
  generalize digitsValue ds = n at hle52 ⊢
  split_ifs with hbound
  · obtain ⟨hfinite, hvalue⟩ := Number.exactValue_nearestBits hle52 hbound
    exact Cell.countOfFloat?_eq_some_iff.2 ⟨_, hfinite, hvalue, rfl⟩
  · rw [(Number.nearestBits_eq_infinityBits_iff hle52).2 (Nat.not_lt.1 hbound)]
    decide +kernel

section Rounded

variable {n : Nat}

/-- From `2 ^ 63` to `2 ^ 64` a number is rounded to a multiple of 2048. -/
lemma roundedWhole_of_lt (hle : 2 ^ 63 ≤ n) (hlt : n < 2 ^ 64) :
    Number.roundedWhole n = roundHalfEven n 2048 * 2048 := by
  have hlog : Nat.log2 n = 63 := (Nat.log2_eq_iff (by omega)).2 ⟨hle, hlt⟩
  have hpower : 2 ^ Number.wholePower n = 2048 := by
    rw [Number.wholePower, hlog]
    rfl
  rw [Number.roundedWhole, hpower]

/-- From `2 ^ 64` on a number is not rounded below `2 ^ 64`. -/
lemma le_roundedWhole (hle : 2 ^ 64 ≤ n) : 2 ^ 64 ≤ Number.roundedWhole n := by
  have hlog : 64 ≤ Nat.log2 n := (Nat.le_log2 (by omega)).2 hle
  have hpower : 2 ^ 12 ≤ 2 ^ Number.wholePower n :=
    Nat.pow_le_pow_right (by decide) (by rw [Number.wholePower]; omega)
  have hsignificand := (Number.roundHalfEven_bounds (n := n) (by omega)).1
  calc 2 ^ 64 = 2 ^ 52 * 2 ^ 12 := by rfl
    _ ≤ Number.roundedWhole n := Nat.mul_le_mul hsignificand hpower

/-- From `2 ^ 63` to `2 ^ 64` the multiples of 2048 are counted exactly, and the largest count. -/
lemma min_rounded_eq_iff (hlt : n < 2 ^ 64) :
    min (roundHalfEven n 2048 * 2048) (2 ^ 64 - 1) = n ↔ 2048 ∣ n ∨ n = 2 ^ 64 - 1 := by
  constructor
  · intro h
    obtain hmin | hmin := min_choice (roundHalfEven n 2048 * 2048) (2 ^ 64 - 1)
    · exact Or.inl ⟨_, (h.symm.trans hmin).trans (Nat.mul_comm _ _)⟩
    · exact Or.inr (h.symm.trans hmin)
  · rintro (hdvd | rfl)
    · rw [Number.roundHalfEven_of_dvd (by decide) hdvd, Nat.div_mul_cancel hdvd]
      omega
    · decide

end Rounded

/-- What is counted for digits that denote `n` and are read as a number. -/
structure CountsDigits (n : Nat) (count : Option Nat) : Prop where
  /-- Below `2 ^ 63` the number itself. -/
  exact_of_lt : n < 2 ^ 63 → count = some n
  /-- Below `2 ^ 64` the nearest multiple of 2048, and the largest count instead of `2 ^ 64`. -/
  rounded : 2 ^ 63 ≤ n → n < 2 ^ 64 →
    count = some (min (roundHalfEven n 2048 * 2048) (2 ^ 64 - 1))
  /-- As long as the nearest float is finite, the largest count. -/
  largest : 2 ^ 64 ≤ n → n < overflowBound → count = some (2 ^ 64 - 1)
  /-- Nothing beyond that. -/
  refused : overflowBound ≤ n → count = none
  /-- So these numbers are counted exactly or not at all, and no other ones. -/
  exact_iff : count = some n ∨ count = none ↔
    n < 2 ^ 63 ∨ (n < 2 ^ 64 ∧ 2048 ∣ n) ∨ n = 2 ^ 64 - 1 ∨ overflowBound ≤ n

/-- What is counted for a float. -/
structure CountsFloat (x : Float) (count : Option Nat) : Prop where
  /-- The whole number that it is, or the largest count if that is less. -/
  some_iff : ∀ m, count = some m ↔
    ∃ n : ℕ, isFinite x = true ∧ exactValue x = n ∧ m = min n (2 ^ 64 - 1)
  /-- So the count is the float exactly below `2 ^ 64`. -/
  exact_iff : ∀ m, count = some m → (exactValue x = m ↔ exactValue x < 2 ^ 64)

/-- The number of digits is counted as the cell that they are read as. -/
lemma countsDigits_infer {ds : List Char} (h : isDigits ds = true) :
    CountsDigits (digitsValue ds) (Cell.infer ds).toCount? := by
  have hbound : 2 ^ 64 ≤ overflowBound := by decide +kernel
  have hsmall : digitsValue ds < 2 ^ 63 → (Cell.infer ds).toCount? = some (digitsValue ds) := by
    intro hlt
    rw [Cell.infer_of_lt h hlt, Cell.toCount?, if_pos (Int.natCast_nonneg _), Int.toNat_natCast]
  have hcount := Cell.toCount?_infer h
  generalize digitsValue ds = n at hsmall hcount ⊢
  generalize (Cell.infer ds).toCount? = count at hsmall hcount ⊢
  have hrounded : 2 ^ 63 ≤ n → n < 2 ^ 64 →
      count = some (min (roundHalfEven n 2048 * 2048) (2 ^ 64 - 1)) := by
    intro hle hlt
    rw [hcount hle, if_pos (hlt.trans_le hbound), roundedWhole_of_lt hle hlt]
  have hlargest : 2 ^ 64 ≤ n → n < overflowBound → count = some (2 ^ 64 - 1) := by
    intro hle hlt
    have hge := le_roundedWhole hle
    rw [hcount (by omega), if_pos hlt, min_eq_right (by omega)]
  have hrefused : overflowBound ≤ n → count = none := by
    intro hle
    rw [hcount (by omega), if_neg (Nat.not_lt.2 hle)]
  refine ⟨hsmall, hrounded, hlargest, hrefused, ?_⟩
  obtain hlt | hle := Nat.lt_or_ge n (2 ^ 63)
  · exact iff_of_true (Or.inl (hsmall hlt)) (Or.inl hlt)
  obtain hlt | hle' := Nat.lt_or_ge n (2 ^ 64)
  · have hfinite : ¬ overflowBound ≤ n := Nat.not_le.2 (hlt.trans_le hbound)
    rw [hrounded hle hlt, Option.some.injEq, min_rounded_eq_iff hlt]
    simp only [reduceCtorEq, or_false]
    omega
  obtain hlt | hle'' := Nat.lt_or_ge n overflowBound
  · rw [hlargest hle' hlt, Option.some.injEq]
    simp only [reduceCtorEq, or_false]
    omega
  · exact iff_of_true (Or.inr (hrefused hle'')) (by simp [hle''])

/-- Digits are counted exactly up to `2 ^ 63`, and beyond that as the nearest float up to the
largest count; a float is counted exactly up to `2 ^ 64`. Digits that are kept as a text are counted
exactly or not at all. -/
theorem countsDigits_and_floats {ds : List Char} (h : isDigits ds = true) (x : Float) :
    CountsDigits (digitsValue ds) (Cell.infer ds).toCount? ∧
      ((Cell.verbatim ds).toCount? =
        if digitsValue ds < 2 ^ 64 then some (digitsValue ds) else none) ∧
      CountsFloat x (Cell.float x).toCount? :=
  ⟨countsDigits_infer h, Cell.toCount?_verbatim h,
    fun _ => Cell.countOfFloat?_eq_some_iff, fun _ hm => exactValue_eq_count_iff hm⟩

/-- The digits of the number after the largest integer of 64 bits with a sign. -/
def oddDigits : List Char := "9223372036854775809".toList

/-- The digits of the number after the largest count. -/
def beyondDigits : List Char := "18446744073709551616".toList

/-- The one is counted as its neighbour when it is read as a number, and as itself when it is kept
as a text. The float beside it is a half. -/
theorem countsDigits_oddDigits :
    (isDigits oddDigits = true ∧ digitsValue oddDigits = 2 ^ 63 + 1) ∧
      (Cell.infer oddDigits).toCount? = some (2 ^ 63) ∧
      (Cell.verbatim oddDigits).toCount? = some (2 ^ 63 + 1) ∧
      CountsFloat 0.5 (Cell.float 0.5).toCount? := by
  have hdigits : isDigits oddDigits = true := by decide
  have hvalue : digitsValue oddDigits = 2 ^ 63 + 1 := by decide
  obtain ⟨hinfer, hverbatim, hfloat⟩ := countsDigits_and_floats hdigits 0.5
  rw [hvalue] at hinfer hverbatim
  exact ⟨⟨hdigits, hvalue⟩, hinfer.rounded (by decide) (by decide), hverbatim, hfloat⟩

/-- The other is read as the float that it is and counted as the largest count, so that neither
digits nor floats are counted exactly or not at all. -/
theorem count_not_exact :
    (isDigits beyondDigits = true ∧ digitsValue beyondDigits = 2 ^ 64) ∧
      (Cell.infer beyondDigits).toCount? = some (2 ^ 64 - 1) ∧
      (¬ ∀ ds, isDigits ds = true → (Cell.infer ds).toCount? = some (digitsValue ds) ∨
        (Cell.infer ds).toCount? = none) ∧
      ¬ ∀ x m, (Cell.float x).toCount? = some m → exactValue x = m := by
  have hdigits : isDigits beyondDigits = true := by decide
  have hvalue : digitsValue beyondDigits = 2 ^ 64 := by decide
  have hcount : (Cell.infer beyondDigits).toCount? = some (2 ^ 64 - 1) := by
    refine (countsDigits_infer hdigits).largest ?_ ?_
    · rw [hvalue]
    · rw [hvalue]
      decide +kernel
  refine ⟨⟨hdigits, hvalue⟩, hcount, fun h => ?_, fun h => ?_⟩
  · have := h beyondDigits hdigits
    rw [hcount, hvalue] at this
    exact absurd this (by decide)
  · -- the float is `2 ^ 64` without rounding
    have hnearest := (Number.exactValue_nearestBits (n := 2 ^ 64) (by decide) (by decide +kernel)).2
    have hrounded : Number.roundedWhole (2 ^ 64) = 2 ^ 64 := by decide +kernel
    rw [Cell.infer_of_le hdigits (by rw [hvalue]; decide), hvalue] at hcount
    rw [h _ _ hcount, hrounded, Nat.cast_inj] at hnearest
    exact absurd hnearest (by decide)

end CircuitBench
