import CircuitBench.Proofs.Json.Tokens

/-!
# Integers and floats in JSON

A cell's integer is written without a point and an exponent, and a finite float with one of them, so
they are told apart by their tokens (`int?_intToken`). The digits of a float denote a number in its
rounding interval, with or without an exponent, and so the float nearest to them is the float that
was written (`exists_token_of_isFinite`).
-/

namespace CircuitBench.Number

/-! ### Numerals of decimals -/

/-- A power of ten that a number with zeros behind its digits has more places than. -/
lemma pow_le_mul_pow {n e m : Nat} (hn : 0 < n) (h : m < (natText n).length + e) :
    10 ^ m ≤ n * 10 ^ e := by
  rcases Nat.lt_or_ge e m with he | he
  · have hlow : 10 ^ (m - e) ≤ n := pow_le_of_lt_length (by omega) (by omega)
    calc 10 ^ m = 10 ^ (m - e) * 10 ^ e := by rw [← pow_add, Nat.sub_add_cancel he.le]
      _ ≤ n * 10 ^ e := Nat.mul_le_mul_right _ hlow
  · exact (Nat.pow_le_pow_right (by decide) he).trans (Nat.le_mul_of_pos_left _ hn)

/-- The digits of a decimal that rounds to a finite magnitude are not too many for a float. -/
lemma length_natText_le {bits digits e : Nat} (hpos : 0 < bits) (hfin : bits < infinityBits)
    (hround : RoundsTo (digits * 10 ^ (e + 1074)) bits) :
    0 < digits ∧ (natText digits).length + e ≤ 400 := by
  rw [RoundsTo, if_neg hpos.ne'] at hround
  obtain ⟨hleast, hmost⟩ := units_bounds hpos hfin hround
  have hdigits : 0 < digits := by
    rcases Nat.eq_zero_or_pos digits with rfl | h
    · rw [Nat.zero_mul] at hleast
      exact absurd hleast (Nat.not_lt_zero _)
    · exact h
  refine ⟨hdigits, ?_⟩
  by_contra hlong
  have hlarge : 10 ^ 1474 ≤ digits * 10 ^ (e + 1074) := pow_le_mul_pow hdigits (by omega)
  exact absurd hmost (Nat.not_lt.2 hlarge)

/-- A numeral with the digits and the place of a decimal is read as the bits that it rounds to. -/
lemma Numeral.toBits_of_decimal {n : Numeral} {d : Decimal} {bits : Nat} (hpos : 0 < bits)
    (hfin : bits < infinityBits) (hleast : -1074 ≤ d.exponent) (hround : RoundsTo d.units bits)
    (hvalue : digitsValue (n.whole ++ n.fraction) = d.digits)
    (hplace : n.exponent - n.fraction.length = d.exponent) : n.toBits = bits := by
  obtain ⟨digits, exponent⟩ := d
  dsimp only at hleast hvalue hplace
  cases exponent with
  | ofNat e =>
    have hunits : Decimal.units ⟨digits, Int.ofNat e⟩ = digits * 10 ^ (e + 1074) := rfl
    rw [hunits] at hround
    obtain ⟨hdigits, hlength⟩ := length_natText_le hpos hfin hround
    rw [RoundsTo, if_neg hpos.ne'] at hround
    have hscaled : ∀ m, digits * 10 ^ e * 10 ^ m = digits * 10 ^ (e + m) * 1 := fun m => by
      rw [pow_add, Nat.mul_one, Nat.mul_assoc]
    have hofNat : Int.ofNat e = (e : Int) := rfl
    unfold Numeral.toBits
    dsimp only
    rw [hvalue, hplace, if_neg hdigits.ne', if_neg (by omega), if_neg (by omega)]
    exact nearestBits_eq_of_holds hpos hfin Nat.one_pos (hscaled 1074) hround
  | negSucc e =>
    refine Numeral.toBits_of_roundsTo hfin hround (k := e + 1) hplace ?_
    rw [hvalue]
    exact Decimal.units_of_places (by omega)

end CircuitBench.Number

namespace CircuitBench.Json

open Number

/-! ### Tokens -/

/-- The integer of a token without point and exponent. -/
def NumberToken.int? (t : NumberToken) : Option Int :=
  if t.fraction.isSome || t.exponent.isSome then none
  else some (if t.negative then -(digitsValue t.whole : Int) else digitsValue t.whole)

/-- The numeral of a token without its sign. -/
def NumberToken.numeral (t : NumberToken) : Numeral :=
  ⟨t.whole, t.fraction.getD [], t.exponent.getD 0⟩

/-- The float nearest to the number of a token. -/
def NumberToken.float (t : NumberToken) : Float :=
  ofMagnitude t.negative t.numeral.toBits

/-- The token of a written integer. -/
def intToken (i : Int) : NumberToken :=
  ⟨i < 0, natText i.natAbs, none, none⟩

/-- Its parts are well formed. -/
lemma wellFormed_intToken (i : Int) : (intToken i).WellFormed :=
  ⟨isDigits_natText _, natText_leading _, fun ds hds => by cases hds⟩

/-- A written integer is the text of its token. -/
lemma text_intToken (i : Int) : (intToken i).text = intText i := by
  cases i with
  | ofNat n => simp [NumberToken.text, intToken, intText, signed]
  | negSucc n => simp [NumberToken.text, intToken, intText, signed, Int.negSucc_lt_zero]

/-- The token of an integer denotes the integer. -/
lemma int?_intToken (i : Int) : (intToken i).int? = some i := by
  simp only [NumberToken.int?, intToken, digitsValue_natText, Option.isSome_none, Bool.or_self,
    Bool.false_eq_true, if_false, decide_eq_true_eq]
  split_ifs <;> congr 1 <;> omega

/-- A text is that of a token with a point or an exponent, whose digits are read as the given
bits. -/
def DenotesBits (cs : List Char) (bits : Nat) : Prop :=
  ∃ t : NumberToken, t.WellFormed ∧ t.negative = false ∧ t.text = cs ∧
    (t.fraction.isSome || t.exponent.isSome) = true ∧ t.numeral.toBits = bits

/-- Digits with a point denote what they round to. -/
lemma denotesBits_of_denotesUnits {cs : List Char} {units bits : Nat} (hfin : bits < infinityBits)
    (hround : RoundsTo units bits) (h : DenotesUnits cs units) (hpoint : '.' ∈ cs)
    (hleading : ∀ c rest, cs = '0' :: c :: rest → c.isDigit = false) : DenotesBits cs bits := by
  obtain ⟨whole, fraction, rfl, hwhole, hfraction, hunits⟩ := h
  have hne : fraction ≠ [] := by
    rintro rfl
    rw [pointed, if_pos rfl, List.append_nil] at hpoint
    exact absurd (List.all_eq_true.1 (all_of_isDigits hwhole) '.' hpoint) (by decide)
  rw [pointed, if_neg hne] at hleading ⊢
  have hdigits : isDigits fraction = true := by
    rw [isDigits, hfraction]
    simp [hne]
  refine ⟨⟨false, whole, some fraction, none⟩, ⟨hwhole, fun d ds heq => ?_, fun ds hds => ?_⟩, rfl,
    ?_, rfl, ?_⟩
  · dsimp only at heq
    have hd := hleading d _ (by rw [heq]; rfl)
    have hall := List.all_eq_true.1 (all_of_isDigits hwhole) d (by simp [heq])
    rw [hd] at hall
    cases hall
  · obtain rfl := Option.some.inj hds
    exact hdigits
  · simp [NumberToken.text, signed]
  · exact Numeral.toBits_of_roundsTo hfin hround (Int.zero_sub _) hunits

/-- Digits with an exponent denote what they round to. -/
lemma denotesBits_scientific {d : Decimal} {bits : Nat} (hpos : 0 < bits)
    (hfin : bits < infinityBits) (hleast : -1074 ≤ d.exponent) (hround : RoundsTo d.units bits) :
    DenotesBits d.scientific bits := by
  have hdigits := isDigits_natText d.digits
  have hvalue := digitsValue_natText d.digits
  unfold Decimal.scientific
  cases hds : natText d.digits with
  | nil => exact absurd hds (ne_nil_of_isDigits hdigits)
  | cons x rest =>
    rw [hds] at hdigits hvalue
    have hall := all_of_isDigits hdigits
    rw [List.all_cons, Bool.and_eq_true] at hall
    have hx : isDigits [x] = true := by simp [isDigits, hall.1]
    -- one digit stands in front of the point, so the exponent counts the others
    obtain ⟨e, he⟩ : ∃ e : Int, e = d.exponent + ((x :: rest).length - 1 : Nat) := ⟨_, rfl⟩
    dsimp only
    rw [← he]
    rw [List.length_cons, Nat.add_sub_cancel] at he
    cases rest with
    | nil =>
      refine ⟨⟨false, [x], none, some e⟩, ⟨hx, fun _ _ heq => ?_, fun _ hds => ?_⟩, rfl, ?_, rfl,
        Numeral.toBits_of_decimal hpos hfin hleast hround hvalue ?_⟩
      · cases (List.cons.inj heq).2
      · cases hds
      · rfl
      · rw [he]
        exact Int.add_sub_cancel _ _
    | cons y others =>
      have hrest : isDigits (y :: others) = true := by
        rw [isDigits, hall.2]
        rfl
      refine ⟨⟨false, [x], some (y :: others), some e⟩, ⟨hx, fun _ _ heq => ?_, fun ds hds => ?_⟩,
        rfl, ?_, rfl, Numeral.toBits_of_decimal hpos hfin hleast hround hvalue ?_⟩
      · cases (List.cons.inj heq).2
      · rwa [← Option.some.inj hds]
      · rfl
      · rw [he]
        exact Int.add_sub_cancel _ _

/-- The digits of a decimal that is not zero do not start with a zero in front of others. -/
lemma positional_leading {d : Decimal} (h : 0 < d.digits ∨ d = ⟨0, 0⟩) (c : Char) (rest : List Char)
    (hd : d.positional = '0' :: c :: rest) : c.isDigit = false := by
  rcases h with hpos | rfl
  · have hhead := head?_natText_ne hpos
    obtain ⟨x, others, hx⟩ :=
      List.exists_cons_of_ne_nil (ne_nil_of_isDigits (isDigits_natText d.digits))
    rw [hx] at hhead
    have hne : x ≠ '0' := by
      rintro rfl
      exact hhead rfl
    unfold Decimal.positional at hd
    rw [hx] at hd
    dsimp only at hd
    split at hd
    · exact absurd (List.cons.inj hd).1 hne
    · split_ifs at hd with hlong
      · obtain ⟨k, hk⟩ := Nat.exists_eq_add_of_lt hlong
        rw [hk, Nat.add_assoc, Nat.add_sub_cancel_left, List.take_succ_cons] at hd
        exact absurd (List.cons.inj hd).1 hne
      · rw [← (List.cons.inj (List.cons.inj hd).2).1]
        rfl
  · cases hd

/-- What is written for the magnitude of a finite float in JSON denotes its bits. -/
lemma denotesBits_magnitude {bits : Nat} (hfin : bits < infinityBits) :
    DenotesBits
      (let d := magnitudeDecimal .toEven bits
      let place : Int := d.exponent + ((natText d.digits).length - 1 : Nat)
      if bits = 0 || (jsonLeastPlace ≤ place && place < jsonFirstExponent) then
        let plain := d.positional
        if plain.contains '.' then plain else plain ++ ['.', '0']
      else d.scientific) bits := by
  obtain ⟨hleast, hround⟩ := roundsTo_magnitudeDecimal .toEven bits
  have hnonzero : 0 < (magnitudeDecimal .toEven bits).digits ∨
      magnitudeDecimal .toEven bits = ⟨0, 0⟩ := by
    rcases Nat.eq_zero_or_pos bits with rfl | hpos
    · exact .inr rfl
    · refine .inl (Nat.pos_of_ne_zero fun hzero => ?_)
      rw [RoundsTo, if_neg hpos.ne', Decimal.units_of_digits_eq_zero hzero] at hround
      exact absurd (units_bounds hpos hfin hround).1 (Nat.not_lt_zero _)
  have hunits := denotesUnits_positional hleast
  have hleading := positional_leading hnonzero
  dsimp only
  split_ifs with hplain hpoint
  · exact denotesBits_of_denotesUnits hfin hround hunits (List.contains_iff_mem.1 hpoint) hleading
  · have hmem : '.' ∉ (magnitudeDecimal .toEven bits).positional := by simpa using hpoint
    refine denotesBits_of_denotesUnits hfin hround (hunits.append_point hmem) (by simp)
      fun c rest heq => ?_
    obtain ⟨x, others, hx, hdigit⟩ := hunits.exists_cons
    rw [hx] at heq hleading
    cases others with
    | nil =>
      rw [← (List.cons.inj (List.cons.inj heq).2).1]
      rfl
    | cons y others =>
      obtain ⟨rfl, htail⟩ := List.cons.inj heq
      exact hleading c others (by rw [(List.cons.inj htail).1])
  · have hpos : 0 < bits := by
      simp only [Bool.or_eq_true, decide_eq_true_eq, not_or] at hplain
      omega
    exact denotesBits_scientific hpos hfin hleast hround

/-- A finite float is written as a token with a point or an exponent that denotes the float. -/
theorem exists_token_of_isFinite {x : Float} (h : isFinite x = true) :
    ∃ t : NumberToken, jsonText x = some t.text ∧ t.WellFormed ∧ t.int? = none ∧ t.float = x := by
  have hfin : magnitudeBits x < infinityBits := by simpa [isFinite] using h
  obtain ⟨t, hformed, hsign, htext, hparts, hbits⟩ := denotesBits_magnitude hfin
  refine ⟨{ t with negative := isNegative x }, ?_,
    ⟨hformed.whole, hformed.leading, hformed.fraction⟩, if_pos hparts, ?_⟩
  · rw [jsonText, h, Bool.not_true, if_neg Bool.false_ne_true]
    dsimp only at htext ⊢
    rw [← htext]
    simp only [NumberToken.text, hsign]
    rfl
  · change ofMagnitude (isNegative x) t.numeral.toBits = x
    rw [hbits, ofMagnitude_magnitudeBits h]

end CircuitBench.Json
