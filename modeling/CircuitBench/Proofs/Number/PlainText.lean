import CircuitBench.Number.Printing
import CircuitBench.Number.Reading
import CircuitBench.Proofs.Number.FloatBits
import CircuitBench.Proofs.Number.ShortestDecimal
import CircuitBench.Proofs.Text.Pieces

/-!
# Plain texts of floats are read back

The plain form of a finite float is a sign and a numeral without exponent (`plainText_eq`). The
numeral denotes a number in the float's rounding interval (`DenotesUnits`, `RoundsTo`), so reading
it gives the float's bits again (`readFloat?_plainText`).
-/

namespace CircuitBench.Number

/-! ### Numerals -/

/-- A power of ten that a number's decimal text has more places than. -/
lemma pow_le_of_lt_length {n k : Nat} (hk : 0 < k) (h : k < (natText n).length) : 10 ^ k ≤ n := by
  by_contra hlt
  have := (Nat.length_toDigits_le_iff (b := 10) (n := n) (by decide) hk).2 (by omega)
  unfold natText at h
  omega

/-- A number is below the power of ten that its decimal text has places for. -/
lemma lt_pow_length_natText (n : Nat) : n < 10 ^ (natText n).length :=
  (Nat.length_toDigits_le_iff (b := 10) (by decide) Nat.length_toDigits_pos).1 le_rfl

/-- The bits of a numeral whose last digit stands `k` places behind the point, the cut-off for
numbers far outside the range apart. -/
lemma Numeral.toBits_eq {n : Numeral} {value k : Nat}
    (hvalue : digitsValue (n.whole ++ n.fraction) = value)
    (hplace : n.exponent - n.fraction.length = -(k : Int)) (hpos : 0 < value)
    (hhigh : (natText value).length ≤ k + 400) (hlow : k ≤ (natText value).length + 400) :
    n.toBits = nearestBits value (10 ^ k) := by
  unfold Numeral.toBits
  dsimp only
  rw [hvalue, hplace, if_neg (by omega), if_neg (by omega), if_neg (by omega)]
  cases k with
  | zero => simp
  | succ k =>
    have hexp : -((k + 1 : Nat) : Int) = Int.negSucc k := rfl
    rw [hexp]
    rfl

/-- A value that is not beyond the largest float has few digits in front of the point. -/
lemma length_le_of_units_lt {value units k : Nat} (hunits : value * 10 ^ 1074 = units * 10 ^ k)
    (hmost : units < 10 ^ 1474) : (natText value).length ≤ k + 400 := by
  by_contra hlong
  have hkpos : 0 < 10 ^ k := Nat.pow_pos (by decide)
  have hbig : 10 ^ (k + 400) ≤ value := pow_le_of_lt_length (by omega) (by omega)
  have hsplit : ∀ m : Nat, 10 ^ (k + 400) * 10 ^ m = 10 ^ (400 + m) * 10 ^ k := fun m => by ring
  have hle : 10 ^ (400 + 1074) * 10 ^ k ≤ units * 10 ^ k := by
    rw [← hunits, ← hsplit 1074]
    exact Nat.mul_le_mul_right _ hbig
  exact absurd hmost (Nat.not_lt.2 (Nat.le_of_mul_le_mul_right hle hkpos))

/-- A value that is not below the smallest float has few zeros behind the point. -/
lemma le_length_of_lt_units {value units k : Nat} (hunits : value * 10 ^ 1074 = units * 10 ^ k)
    (hleast : 10 ^ 674 < units) : k ≤ (natText value).length + 400 := by
  by_contra hshort
  have hten : ∀ m : Nat, 0 < 10 ^ m := fun m => Nat.pow_pos (by decide)
  have hsmall : value < 10 ^ (natText value).length := lt_pow_length_natText value
  -- the powers are named so that they are not evaluated
  obtain ⟨gap, hgap⟩ : ∃ n, n = 10 ^ 400 := ⟨_, rfl⟩
  obtain ⟨scale, hscale⟩ : ∃ n, n = 10 ^ 1074 := ⟨_, rfl⟩
  have hproduct : (10 : Nat) ^ 1074 = 10 ^ 674 * 10 ^ 400 := by decide +kernel
  rw [← hscale, ← hgap] at hproduct
  rw [← hscale] at hunits
  have hle : 10 ^ (natText value).length * gap ≤ 10 ^ k := by
    rw [hgap, ← pow_add]
    exact Nat.pow_le_pow_right (by decide) (by omega)
  have hscaled : units * gap * 10 ^ k ≤ scale * 10 ^ k := by
    calc units * gap * 10 ^ k = units * 10 ^ k * gap := by ring
      _ = value * scale * gap := by rw [hunits]
      _ ≤ 10 ^ (natText value).length * scale * gap :=
        Nat.mul_le_mul_right gap (Nat.mul_le_mul_right scale hsmall.le)
      _ = 10 ^ (natText value).length * gap * scale := by ring
      _ ≤ 10 ^ k * scale := Nat.mul_le_mul_right scale hle
      _ = scale * 10 ^ k := by ring
  have hgappos : 0 < gap := by
    rw [hgap]
    exact hten 400
  have hlt : scale < units * gap := by
    rw [hproduct]
    exact Nat.mul_lt_mul_of_pos_right hleast hgappos
  exact absurd hlt (Nat.not_lt.2 (Nat.le_of_mul_le_mul_right hscaled (hten k)))

/-- A numeral that denotes units in the rounding interval of a finite magnitude is read as its
bits. -/
lemma Numeral.toBits_eq_of_holds {n : Numeral} {bits units k : Nat} (hpos : 0 < bits)
    (hfin : bits < infinityBits)
    (hholds : (Binary64.ofBits bits).interval.holds (4 * units) = true)
    (hplace : n.exponent - n.fraction.length = -(k : Int))
    (hunits : digitsValue (n.whole ++ n.fraction) * 10 ^ 1074 = units * 10 ^ k) :
    n.toBits = bits := by
  obtain ⟨hleast, hmost⟩ := units_bounds hpos hfin hholds
  obtain ⟨value, hvalue⟩ : ∃ m, m = digitsValue (n.whole ++ n.fraction) := ⟨_, rfl⟩
  rw [← hvalue] at hunits
  have hkpos : 0 < 10 ^ k := Nat.pow_pos (by decide)
  have hvaluepos : 0 < value := by
    rcases Nat.eq_zero_or_pos value with h | h
    · rw [h, Nat.zero_mul] at hunits
      have := Nat.mul_pos (Nat.zero_lt_of_lt hleast) hkpos
      omega
    · exact h
  rw [Numeral.toBits_eq hvalue.symm hplace hvaluepos (length_le_of_units_lt hunits hmost)
    (le_length_of_lt_units hunits hleast)]
  exact nearestBits_eq_of_holds hpos hfin hkpos hunits hholds

/-- A number of steps of `10 ^ -1074` that rounds to the given bits. -/
def RoundsTo (units bits : Nat) : Prop :=
  if bits = 0 then units = 0 else (Binary64.ofBits bits).interval.holds (4 * units) = true

/-- A numeral is read as the bits that it rounds to. -/
lemma Numeral.toBits_of_roundsTo {n : Numeral} {bits units k : Nat}
    (hfin : bits < infinityBits) (hround : RoundsTo units bits)
    (hplace : n.exponent - n.fraction.length = -(k : Int))
    (hunits : digitsValue (n.whole ++ n.fraction) * 10 ^ 1074 = units * 10 ^ k) :
    n.toBits = bits := by
  unfold RoundsTo at hround
  split_ifs at hround with hzero
  · have hten : ∀ k : Nat, 0 < 10 ^ k := fun k => Nat.pow_pos (by decide)
    obtain ⟨scale, hscale⟩ : ∃ n, n = 10 ^ 1074 := ⟨_, rfl⟩
    have hpos : 0 < scale := by
      rw [hscale]
      exact hten 1074
    rw [← hscale, hround, Nat.zero_mul] at hunits
    have hvalue : digitsValue (n.whole ++ n.fraction) = 0 := by
      rcases Nat.mul_eq_zero.1 hunits with h | h
      · exact h
      · omega
    rw [hzero, Numeral.toBits, hvalue, if_pos rfl]
  · exact Numeral.toBits_eq_of_holds (by omega) hfin hround hplace hunits

/-- Without digits, a decimal denotes nothing. -/
lemma Decimal.units_of_digits_eq_zero {d : Decimal} (h : d.digits = 0) : d.units = 0 := by
  rw [Decimal.units, h, Nat.zero_mul]

/-- The places of a decimal behind its point are factors of ten that its units lack. -/
lemma Decimal.units_of_places {digits e : Nat} (he : e + 1 ≤ 1074) :
    digits * 10 ^ 1074 = Decimal.units ⟨digits, .negSucc e⟩ * 10 ^ (e + 1) := by
  have hexp : (Int.negSucc e + 1074).toNat = 1074 - (e + 1) := by omega
  have hsplit : ∀ n p : Nat, p ≤ n → digits * 10 ^ n = digits * 10 ^ (n - p) * 10 ^ p := by
    intro n p hp
    rw [Nat.mul_assoc, ← pow_add, Nat.sub_add_cancel hp]
  rw [Decimal.units, hexp]
  exact hsplit 1074 (e + 1) he

/-- The decimal that is written for a finite magnitude rounds to it. -/
lemma roundsTo_magnitudeDecimal (tie : Tie) (bits : Nat) :
    -1074 ≤ (magnitudeDecimal tie bits).exponent ∧
      RoundsTo (magnitudeDecimal tie bits).units bits := by
  unfold magnitudeDecimal RoundsTo
  split_ifs with hzero
  · exact ⟨by decide, Decimal.units_of_digits_eq_zero rfl⟩
  · have hpos : 0 < bits := Nat.pos_of_ne_zero hzero
    obtain ⟨-, hsig, -⟩ := Binary64.ofBits_bits hpos
    exact holds_shortest tie hsig

/-! ### Numeral texts -/

/-- Zeros behind digits are factors of ten. -/
lemma digitsValue_append_zeros (ds : List Char) (k : Nat) :
    digitsValue (ds ++ List.replicate k '0') = digitsValue ds * 10 ^ k := by
  rw [digitsValue, Nat.ofDigitChars_append, Nat.ofDigitChars_replicate_zero, Nat.mul_comm]
  rfl

/-- Zeros in front of digits do not count. -/
lemma digitsValue_zeros_append (ds : List Char) (k : Nat) :
    digitsValue (List.replicate k '0' ++ ds) = digitsValue ds := by
  rw [digitsValue, Nat.ofDigitChars_append, Nat.ofDigitChars_replicate_zero, Nat.mul_zero]
  rfl

/-- Zeros are digits. -/
lemma all_isDigit_zeros (k : Nat) : (List.replicate k '0').all Char.isDigit = true := by
  simp

/-- A fraction with its point; nothing where there is none. -/
def pointed (fraction : List Char) : List Char :=
  if fraction = [] then [] else '.' :: fraction

/-- A text of digits, with or without a fraction, that denotes a number of steps of `10 ^ -1074`. -/
def DenotesUnits (cs : List Char) (units : Nat) : Prop :=
  ∃ whole fraction, cs = whole ++ pointed fraction ∧ isDigits whole = true ∧
    fraction.all Char.isDigit = true ∧
    digitsValue (whole ++ fraction) * 10 ^ 1074 = units * 10 ^ fraction.length

/-- A run of digits is not empty. -/
lemma ne_nil_of_isDigits {cs : List Char} (h : isDigits cs = true) : cs ≠ [] := by
  rintro rfl
  cases h

/-- The characters of a run of digits. -/
lemma all_of_isDigits {cs : List Char} (h : isDigits cs = true) : cs.all Char.isDigit = true := by
  unfold isDigits at h
  exact (Bool.and_eq_true_iff.1 h).2

/-- A run of digits in front of digits is one. -/
lemma isDigits_append {cs ds : List Char} (hcs : isDigits cs = true)
    (hds : ds.all Char.isDigit = true) : isDigits (cs ++ ds) = true := by
  have hne := ne_nil_of_isDigits hcs
  rw [isDigits, List.all_append, all_of_isDigits hcs, hds]
  simp [hne]

/-- The whole part and the fraction of a numeral text. -/
lemma splitMantissa?_pointed {whole fraction : List Char} (hwhole : isDigits whole = true)
    (hfraction : fraction.all Char.isDigit = true) :
    splitMantissa? (whole ++ pointed fraction) = some (whole, fraction) := by
  have hne := ne_nil_of_isDigits hwhole
  have hstop : Text.Stops Char.isDigit (pointed fraction) := by
    unfold pointed
    split_ifs
    · exact Text.stops_nil _
    · exact Text.stops_cons.2 rfl
  unfold splitMantissa?
  rw [Text.takeWhile_append (all_of_isDigits hwhole) hstop,
    Text.dropWhile_append (all_of_isDigits hwhole) hstop]
  unfold pointed
  split_ifs with hempty
  · simp [hne, hempty]
  · simp only [hfraction, Bool.true_and]
    simp [hne]

/-- A digit is no exponent mark. -/
lemma not_isExponentMark_of_isDigit {c : Char} (h : c.isDigit = true) :
    isExponentMark c = false := by
  unfold isExponentMark
  rw [Bool.or_eq_false_iff, beq_eq_false_iff_ne, beq_eq_false_iff_ne]
  exact ⟨Text.ne_of_class h (by decide), Text.ne_of_class h (by decide)⟩

/-- The characters of a numeral text are digits and points. -/
lemma mem_numeral {whole fraction : List Char} (hwhole : isDigits whole = true)
    (hfraction : fraction.all Char.isDigit = true) {c : Char}
    (hc : c ∈ whole ++ pointed fraction) : c.isDigit = true ∨ c = '.' := by
  rcases List.mem_append.1 hc with hc | hc
  · exact .inl (List.all_eq_true.1 (all_of_isDigits hwhole) c hc)
  · unfold pointed at hc
    split_ifs at hc
    · cases hc
    · rcases List.mem_cons.1 hc with rfl | hc
      · exact .inr rfl
      · exact .inl (List.all_eq_true.1 hfraction c hc)

/-- The parts of a numeral text. -/
lemma readNumeral?_pointed {whole fraction : List Char} (hwhole : isDigits whole = true)
    (hfraction : fraction.all Char.isDigit = true) :
    readNumeral? (whole ++ pointed fraction) = some ⟨whole, fraction, 0⟩ := by
  have hmarks : (whole ++ pointed fraction).all (!isExponentMark ·) = true := by
    rw [List.all_eq_true]
    intro c hc
    rcases mem_numeral hwhole hfraction hc with h | rfl
    · simp [not_isExponentMark_of_isDigit h]
    · rfl
  have htake := Text.takeWhile_append hmarks (Text.stops_nil _)
  have hdrop := Text.dropWhile_append hmarks (Text.stops_nil _)
  rw [List.append_nil] at htake hdrop
  unfold readNumeral?
  rw [htake, hdrop, splitMantissa?_pointed hwhole hfraction]
  rfl

/-- A numeral text is no word, and its parts are read. -/
lemma readMagnitude?_pointed {whole fraction : List Char} (hwhole : isDigits whole = true)
    (hfraction : fraction.all Char.isDigit = true) :
    readMagnitude? (whole ++ pointed fraction) = some (Numeral.toBits ⟨whole, fraction, 0⟩) := by
  have hnumeral := readNumeral?_pointed hwhole hfraction
  obtain ⟨c, whole, rfl⟩ := List.exists_cons_of_ne_nil (ne_nil_of_isDigits hwhole)
  have hc : c.isDigit = true :=
    List.all_eq_true.1 (all_of_isDigits hwhole) c List.mem_cons_self
  have hlower : c.toLower = c := by
    rw [Char.isDigit, Bool.and_eq_true_iff, decide_eq_true_eq, decide_eq_true_eq] at hc
    rw [Char.toLower, dif_neg]
    rintro ⟨h, -⟩
    have := UInt32.le_trans h hc.2
    exact absurd this (by decide)
  have hi : c ≠ 'i' := by
    rintro rfl
    cases hc
  have hn : c ≠ 'n' := by
    rintro rfl
    cases hc
  unfold readMagnitude?
  rw [hnumeral, Option.map_some]
  simp [hlower, hi, hn]

/-- A numeral text is read as the bits that it rounds to. -/
lemma readMagnitude?_of_denotesUnits {cs : List Char} {bits units : Nat}
    (hfin : bits < infinityBits) (hround : RoundsTo units bits) (h : DenotesUnits cs units) :
    readMagnitude? cs = some bits := by
  obtain ⟨whole, fraction, rfl, hwhole, hfraction, hunits⟩ := h
  have hbits : Numeral.toBits ⟨whole, fraction, 0⟩ = bits :=
    Numeral.toBits_of_roundsTo hfin hround (Int.zero_sub _) hunits
  rw [readMagnitude?_pointed hwhole hfraction, hbits]

/-- A numeral text starts with a digit. -/
lemma DenotesUnits.exists_cons {cs : List Char} {units : Nat} (h : DenotesUnits cs units) :
    ∃ c rest, cs = c :: rest ∧ c.isDigit = true := by
  obtain ⟨whole, fraction, rfl, hwhole, -⟩ := h
  obtain ⟨c, rest, rfl⟩ := List.exists_cons_of_ne_nil (ne_nil_of_isDigits hwhole)
  exact ⟨c, rest ++ pointed fraction, rfl,
    List.all_eq_true.1 (all_of_isDigits hwhole) c List.mem_cons_self⟩

/-- A text that starts with a digit has no sign. -/
lemma readFloat?_cons_of_isDigit {c : Char} (hc : c.isDigit = true) (rest : List Char) :
    readFloat? (c :: rest) = (readMagnitude? (c :: rest)).map (ofMagnitude false) := by
  unfold readFloat?
  split
  · next heq =>
    rw [(List.cons.inj heq).1] at hc
    cases hc
  · next heq =>
    rw [(List.cons.inj heq).1] at hc
    cases hc
  · rfl

/-- A numeral text is read as the positive float with the bits that it rounds to. -/
lemma readFloat?_of_denotesUnits {cs : List Char} {bits units : Nat}
    (hfin : bits < infinityBits) (hround : RoundsTo units bits) (h : DenotesUnits cs units) :
    readFloat? cs = some (ofMagnitude false bits) := by
  have hread := readMagnitude?_of_denotesUnits hfin hround h
  obtain ⟨c, rest, rfl, hc⟩ := h.exists_cons
  rw [readFloat?_cons_of_isDigit hc, hread, Option.map_some]

/-- Digits with zeros behind them denote a whole number. -/
lemma denotesUnits_whole (digits e : Nat) :
    DenotesUnits (natText digits ++ List.replicate e '0') (Decimal.units ⟨digits, .ofNat e⟩) := by
  have hvalue : digitsValue (natText digits ++ List.replicate e '0') = digits * 10 ^ e := by
    rw [digitsValue_append_zeros, digitsValue_natText]
  have hexp : (Int.ofNat e + 1074).toNat = e + 1074 := by simp; omega
  refine ⟨natText digits ++ List.replicate e '0', [], by simp [pointed],
    isDigits_append (isDigits_natText digits) (all_isDigit_zeros e), rfl, ?_⟩
  rw [List.append_nil, hvalue, Decimal.units]
  dsimp only
  rw [hexp, List.length_nil, pow_zero, Nat.mul_one, pow_add, Nat.mul_assoc]

/-- Digits with a point between them denote a decimal with as many places as there are digits behind
the point. -/
lemma denotesUnits_point {digits e : Nat} (he : e + 1 ≤ 1074) {whole fraction : List Char}
    (hwhole : isDigits whole = true) (hfraction : fraction.all Char.isDigit = true)
    (hlength : fraction.length = e + 1) (hvalue : digitsValue (whole ++ fraction) = digits) :
    DenotesUnits (whole ++ '.' :: fraction) (Decimal.units ⟨digits, .negSucc e⟩) := by
  have hne : fraction ≠ [] := List.ne_nil_of_length_eq_add_one hlength
  refine ⟨whole, fraction, by rw [pointed, if_neg hne], hwhole, hfraction, ?_⟩
  rw [hvalue, hlength]
  exact Decimal.units_of_places he

/-- The point stands between the digits of a decimal with fewer places than digits. -/
lemma denotesUnits_inside {digits e : Nat} (he : e + 1 ≤ 1074)
    (hlong : e + 1 < (natText digits).length) :
    DenotesUnits ((natText digits).take ((natText digits).length - (e + 1))
        ++ '.' :: (natText digits).drop ((natText digits).length - (e + 1)))
      (Decimal.units ⟨digits, .negSucc e⟩) := by
  have hall := all_of_isDigits (isDigits_natText digits)
  rw [← List.take_append_drop ((natText digits).length - (e + 1)) (natText digits),
    List.all_append, Bool.and_eq_true_iff] at hall
  have hne : (natText digits).take ((natText digits).length - (e + 1)) ≠ [] := by
    refine List.ne_nil_of_length_pos ?_
    rw [List.length_take]
    omega
  refine denotesUnits_point he ?_ hall.2 ?_ ?_
  · rw [isDigits, hall.1, List.isEmpty_eq_false_iff.2 hne]
    rfl
  · rw [List.length_drop]
    omega
  · rw [List.take_append_drop, digitsValue_natText]

/-- The point stands in front of the digits of a decimal with as many places or more, with zeros
between them. -/
lemma denotesUnits_inFront {digits e : Nat} (he : e + 1 ≤ 1074)
    (hshort : (natText digits).length ≤ e + 1) :
    DenotesUnits
      ('0' :: '.' :: (List.replicate (e + 1 - (natText digits).length) '0' ++ natText digits))
      (Decimal.units ⟨digits, .negSucc e⟩) := by
  have hzero : isDigits ['0'] = true := rfl
  refine denotesUnits_point he hzero ?_ ?_ ?_
  · rw [List.all_append, all_isDigit_zeros, all_of_isDigits (isDigits_natText digits)]
    rfl
  · rw [List.length_append, List.length_replicate]
    omega
  · have hone : ['0'] = List.replicate 1 '0' := rfl
    rw [hone, digitsValue_zeros_append, digitsValue_zeros_append, digitsValue_natText]

/-- A decimal's positional text denotes the decimal. -/
lemma denotesUnits_positional {d : Decimal} (h : -1074 ≤ d.exponent) :
    DenotesUnits d.positional d.units := by
  obtain ⟨digits, exponent⟩ := d
  dsimp only at h
  cases exponent with
  | ofNat e => exact denotesUnits_whole digits e
  | negSucc e =>
    have he : e + 1 ≤ 1074 := by omega
    rw [Decimal.positional]
    dsimp only
    split_ifs with hlong
    · exact denotesUnits_inside he hlong
    · exact denotesUnits_inFront he (Nat.not_lt.1 hlong)

/-- A whole number is still the same with an empty fraction behind it. -/
lemma DenotesUnits.append_point {cs : List Char} {units : Nat} (h : DenotesUnits cs units)
    (hpoint : '.' ∉ cs) : DenotesUnits (cs ++ ['.', '0']) units := by
  obtain ⟨whole, fraction, rfl, hwhole, hfraction, hunits⟩ := h
  have hnil : fraction = [] := by
    by_contra hne
    exact hpoint (by simp [pointed, hne])
  subst hnil
  refine ⟨whole, ['0'], by simp [pointed], hwhole, rfl, ?_⟩
  have hvalue : digitsValue (whole ++ ['0']) = digitsValue whole * 10 ^ 1 :=
    digitsValue_append_zeros whole 1
  rw [List.append_nil, List.length_nil, pow_zero, Nat.mul_one] at hunits
  rw [hvalue, List.length_singleton, Nat.mul_right_comm, hunits]

/-! ### Floats -/

/-- The text that is written for the magnitude of a finite float. -/
def magnitudeText (x : Float) : List Char :=
  (magnitudeDecimal .up (magnitudeBits x)).positional

/-- The plain form of a finite float is its sign and the text of its magnitude. -/
lemma plainText_eq {x : Float} (h : isFinite x = true) :
    plainText x = signed (isNegative x) (magnitudeText x) := by
  have hfin : magnitudeBits x < infinityBits := by simpa [isFinite] using h
  rw [plainText, if_neg (by omega), if_neg (by omega), magnitudeText]

/-- The text of a magnitude denotes what rounds to it. -/
lemma denotesUnits_magnitudeText (x : Float) :
    ∃ units, RoundsTo units (magnitudeBits x) ∧ DenotesUnits (magnitudeText x) units := by
  obtain ⟨hexponent, hround⟩ := roundsTo_magnitudeDecimal .up (magnitudeBits x)
  exact ⟨_, hround, denotesUnits_positional hexponent⟩

/-- The plain form of a finite float is read as that float. -/
theorem readFloat?_plainText {x : Float} (h : isFinite x = true) :
    readFloat? (plainText x) = some x := by
  have hfin : magnitudeBits x < infinityBits := by simpa [isFinite] using h
  obtain ⟨units, hround, hunits⟩ := denotesUnits_magnitudeText x
  have hread := readMagnitude?_of_denotesUnits hfin hround hunits
  have hback := ofMagnitude_magnitudeBits h
  rw [plainText_eq h]
  cases hsign : isNegative x with
  | true =>
    rw [hsign] at hback
    simp only [signed, if_true, readFloat?, hread, Option.map_some, hback]
  | false =>
    rw [hsign] at hback
    rw [signed, if_neg Bool.false_ne_true, readFloat?_of_denotesUnits hfin hround hunits, hback]

end CircuitBench.Number
