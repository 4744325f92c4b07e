import CircuitBench.Json.Quoted
import CircuitBench.Json.Decoder
import CircuitBench.Proofs.Number.PlainText
import CircuitBench.Proofs.Number.Rounding
import CircuitBench.Proofs.Number.UnitProduct

/-!
# Written JSON tokens are read back

The escapes of a quoted text stand for its characters (`readStringBody_quoted`), and the digits of a
number are read as the number (`scanNumber_text`). Both are read up to their ends, whatever follows
a string, and a number where the text does not go on with another character of numbers.
-/

namespace CircuitBench.Json

open Number

/-! ### Strings -/

/-- Hexadecimal digits have their values. -/
lemma hexValue?_hexDigit : ∀ n < 16, hexValue? (hexDigit n) = some n := by
  decide

/-- Four characters have at least four bytes. -/
lemma hasBytes_four (a b c d : Char) (rest : List Char) :
    hasBytes 4 (a :: b :: c :: d :: rest) = true := by
  have ha := Char.utf8Size_pos a
  have hb := Char.utf8Size_pos b
  have hc := Char.utf8Size_pos c
  have hd := Char.utf8Size_pos d
  simp [hasBytes]
  omega

/-- The escape of a control character by its number. -/
lemma readStringFrom_control {c : Char} (h : c.toNat < 0x20) (rest : List Char) :
    readStringFrom .text ('\\' :: 'u' :: '0' :: '0' :: hexDigit (c.toNat / 16) ::
      hexDigit (c.toNat % 16) :: rest) = (readStringFrom .text rest).map (consRead c) := by
  have hhigh := hexValue?_hexDigit (c.toNat / 16) (by omega)
  have hlow := hexValue?_hexDigit (c.toNat % 16) (by omega)
  have hzero : hexValue? '0' = some 0 := by decide
  have hvalue : (c.toNat / 16) * 16 + c.toNat % 16 = c.toNat := by omega
  have hlowSurrogate : isLowSurrogate c.toNat = false := by
    rw [isLowSurrogate, Bool.and_eq_false_iff, decide_eq_false_iff_not]
    omega
  have hhighSurrogate : isHighSurrogate c.toNat = false := by
    rw [isHighSurrogate, Bool.and_eq_false_iff, decide_eq_false_iff_not]
    omega
  simp [readStringFrom, hasBytes_four, hzero, hhigh, hlow, hvalue, hlowSurrogate, hhighSurrogate]

/-- The written form of a character is read as the character. -/
lemma readStringFrom_escape (c : Char) (rest : List Char) :
    readStringFrom .text (escape c ++ rest) = (readStringFrom .text rest).map (consRead c) := by
  unfold escape
  split_ifs with h1 h2 h3 h4 h5 h6 h7 h8
  · subst h1
    rfl
  · subst h2
    rfl
  · subst h3
    rfl
  · subst h4
    rfl
  · subst h5
    rfl
  · subst h6
    rfl
  · subst h7
    rfl
  · exact readStringFrom_control h8 rest
  · rw [List.singleton_append, readStringFrom, if_neg h1, if_neg h2, if_neg h8]

/-- The characters of a quoted text, whatever follows it. -/
lemma readStringBody_quoted (cs rest : List Char) :
    readStringBody (cs.flatMap escape ++ '"' :: rest) = .ok (cs, rest) := by
  unfold readStringBody
  induction cs with
  | nil => rfl
  | cons c cs ih =>
    rw [List.flatMap_cons, List.append_assoc, readStringFrom_escape, ih]
    rfl

/-! ### Numbers -/

/-- A text behind a value: nothing, or a blank, a comma or a closing bracket in front. -/
def Ends (cs : List Char) : Prop :=
  Text.Stops (fun c => !(c == ',' || c == ']' || c == '\x7d' || isSpace c)) cs

/-- Behind a value no character of a class goes on, when the class holds no blank, comma or closing
bracket. -/
lemma Ends.stops {p : Char → Bool} {cs : List Char} (h : Ends cs)
    (hp : [',', ']', '\x7d', ' ', '\n', '\t', '\r'].any p = false) : Text.Stops p cs := by
  intro c hc
  have hends := h c hc
  simp only [Bool.not_eq_false', Bool.or_eq_true, beq_iff_eq, isSpace] at hends
  rw [List.any_eq_false] at hp
  refine Bool.eq_false_iff.2 (hp c ?_)
  simp only [List.mem_cons, List.not_mem_nil, or_false]
  tauto

/-- A blank ends a value. -/
lemma ends_of_isSpace {c : Char} (hc : isSpace c = true) (cs : List Char) : Ends (c :: cs) :=
  Text.stops_cons.2 (by simp [hc])

/-- The first digit of a positive number is not zero. -/
lemma head?_natText_ne {n : Nat} (h : 0 < n) : (natText n).head? ≠ some '0' := by
  induction n using Nat.strongRecOn with
  | ind n ih =>
    unfold natText at ih ⊢
    rw [Nat.toDigits_eq_if (by decide)]
    split_ifs with hlt
    · simp [h.ne']
    · have hpos : 0 < n / 10 := by omega
      have hdiv := ih (n / 10) (by omega) hpos
      rw [List.head?_append_of_ne_nil _ Nat.toDigits_ne_nil]
      exact hdiv

/-- The parts of a number as they are written: a run of digits with no zero in front of others, and
digits behind a point if there is one. -/
structure NumberToken.WellFormed (t : NumberToken) : Prop where
  whole : isDigits t.whole = true
  leading : ∀ d ds, t.whole ≠ '0' :: d :: ds
  fraction : ∀ ds ∈ t.fraction, isDigits ds = true

/-- A written exponent: its mark, its sign and its digits. -/
def exponentText (e : Int) : List Char :=
  'e' :: (if e < 0 then intText e else '+' :: intText e)

/-- The written form of a number's parts. -/
def NumberToken.text (t : NumberToken) : List Char :=
  signed t.negative (t.whole ++ (t.fraction.elim [] ('.' :: ·) ++ t.exponent.elim [] exponentText))

/-- Digits are read up to their end. -/
lemma readDigits_append {ds rest : List Char} (hds : isDigits ds = true)
    (hrest : Text.Stops Char.isDigit rest) : readDigits (ds ++ rest) = .ok (ds, rest) := by
  have hall := all_of_isDigits hds
  obtain ⟨c, cs, rfl⟩ := List.exists_cons_of_ne_nil (ne_nil_of_isDigits hds)
  rw [List.all_cons, Bool.and_eq_true] at hall
  rw [List.cons_append, readDigits, if_pos hall.1, Text.takeWhile_append hall.2 hrest,
    Text.dropWhile_append hall.2 hrest]

/-- Digits without a zero in front of others are a whole part. -/
lemma readWhole_append {ds rest : List Char} (hds : isDigits ds = true)
    (hleading : ∀ d others, ds ≠ '0' :: d :: others) (hrest : Text.Stops Char.isDigit rest) :
    readWhole (ds ++ rest) = .ok (ds, rest) := by
  unfold readWhole
  rw [readDigits_append hds hrest]
  dsimp only [bind, Except.bind]
  split
  · exact absurd rfl (hleading _ _)
  · rfl

/-- Where neither a digit nor a point goes on, no digit does. -/
lemma stops_isDigit {cs : List Char} (h : Text.Stops (fun c => c.isDigit || c == '.') cs) :
    Text.Stops Char.isDigit cs := by
  intro c hc
  have hstop := h c hc
  rw [Bool.or_eq_false_iff] at hstop
  exact hstop.1

/-- A fraction is read behind its point, and none is read where there is no point. -/
lemma readFraction_append {fraction : Option (List Char)} {rest : List Char}
    (hfraction : ∀ ds ∈ fraction, isDigits ds = true)
    (hrest : Text.Stops (fun c => c.isDigit || c == '.') rest) :
    readFraction (fraction.elim [] ('.' :: ·) ++ rest) = .ok (fraction, rest) := by
  cases fraction with
  | none =>
    cases rest with
    | nil => rfl
    | cons c rest =>
      have hpoint : c ≠ '.' := by
        rintro rfl
        exact absurd (Text.stops_cons.1 hrest) (by decide)
      change readFraction (c :: rest) = _
      rw [readFraction]
      rintro _ heq
      exact absurd (List.cons.inj heq).1 hpoint
  | some ds =>
    change (readDigits (ds ++ rest) >>= _) = _
    rw [readDigits_append (hfraction ds rfl) (stops_isDigit hrest)]
    rfl

/-- An exponent is read behind its mark, and none is read where there is no mark. -/
lemma readExponent_append (exponent : Option Int) {rest : List Char} (h : Ends rest) :
    readExponent (exponent.elim [] exponentText ++ rest) = .ok (exponent, rest) := by
  have hdigits : ∀ n, readDigits (natText n ++ rest) = .ok (natText n, rest) := fun n =>
    readDigits_append (isDigits_natText n) (h.stops (by decide))
  cases exponent with
  | none =>
    cases rest with
    | nil => rfl
    | cons c rest =>
      have hmark : isExponentMark c = false :=
        Text.stops_cons.1 (h.stops (p := isExponentMark) (by decide))
      change readExponent (c :: rest) = _
      unfold readExponent
      dsimp only
      rw [hmark, if_neg Bool.false_ne_true]
  | some e =>
    cases e with
    | ofNat n =>
      change (readDigits (natText n ++ rest) >>= fun r =>
        .ok (some (digitsValue r.1 : Int), r.2)) = _
      rw [hdigits]
      change Except.ok (some (digitsValue (natText n) : Int), rest) = _
      rw [digitsValue_natText]
      rfl
    | negSucc n =>
      have htext : exponentText (Int.negSucc n) = 'e' :: '-' :: natText (n + 1) := by
        rw [exponentText, if_pos (Int.negSucc_lt_zero n)]
        rfl
      change readExponent (exponentText (Int.negSucc n) ++ rest) = _
      rw [htext]
      change (readDigits (natText (n + 1) ++ rest) >>= fun r =>
        .ok (some (-(digitsValue r.1 : Int)), r.2)) = _
      rw [hdigits]
      change Except.ok (some (-(digitsValue (natText (n + 1)) : Int)), rest) = _
      rw [digitsValue_natText]
      rfl

/-- Neither a digit nor a point goes on where an exponent or the end of a number comes. -/
lemma stops_exponentText (exponent : Option Int) {rest : List Char} (h : Ends rest) :
    Text.Stops (fun c => c.isDigit || c == '.') (exponent.elim [] exponentText ++ rest) := by
  cases exponent with
  | none => exact h.stops (by decide)
  | some e => exact Text.stops_cons.2 (by decide)

/-- No digit goes on where a fraction or what may come behind it comes. -/
lemma stops_fractionText (fraction : Option (List Char)) {rest : List Char}
    (h : Text.Stops (fun c => c.isDigit || c == '.') rest) :
    Text.Stops Char.isDigit (fraction.elim [] ('.' :: ·) ++ rest) := by
  cases fraction with
  | none => exact stops_isDigit h
  | some ds => exact Text.stops_cons.2 (by decide)

/-- A text that starts with a digit does not start with a minus sign. -/
lemma head?_append_ne_minus {ds : List Char} (hds : isDigits ds = true) (rest : List Char) :
    (ds ++ rest).head? ≠ some '-' := by
  have hall := all_of_isDigits hds
  obtain ⟨c, cs, rfl⟩ := List.exists_cons_of_ne_nil (ne_nil_of_isDigits hds)
  rw [List.all_cons, Bool.and_eq_true] at hall
  rintro heq
  rw [Option.some.inj heq] at hall
  exact absurd hall.1 (by decide)

/-- A number is scanned up to the end of its written form. -/
lemma scanNumber_text {t : NumberToken} (ht : t.WellFormed) {rest : List Char} (h : Ends rest) :
    scanNumber (t.text ++ rest) = .ok (t, rest) := by
  obtain ⟨negative, whole, fraction, exponent⟩ := t
  have hexponentStop := stops_exponentText exponent h
  have hexponent := readExponent_append exponent h
  have hfraction := readFraction_append ht.fraction hexponentStop
  have hwhole := readWhole_append ht.whole ht.leading (stops_fractionText fraction hexponentStop)
  have hminus := head?_append_ne_minus ht.whole
    (fraction.elim [] ('.' :: ·) ++ (exponent.elim [] exponentText ++ rest))
  have htext : NumberToken.text ⟨negative, whole, fraction, exponent⟩ ++ rest = signed negative
      (whole ++ (fraction.elim [] ('.' :: ·) ++ (exponent.elim [] exponentText ++ rest))) := by
    cases negative <;> simp [NumberToken.text, signed]
  unfold scanNumber
  rw [htext]
  split
  next sign tail heq =>
  have hsign : (sign, tail) = (negative, whole ++ (fraction.elim [] ('.' :: ·) ++
      (exponent.elim [] exponentText ++ rest))) := by
    rw [← heq]
    cases negative with
    | true => rfl
    | false =>
      rw [signed, if_neg Bool.false_ne_true]
      split
      · next heq' => exact absurd (congrArg List.head? heq') hminus
      · rfl
  cases hsign
  rw [hwhole]
  change (readFraction _ >>= _) = _
  rw [hfraction]
  change (readExponent _ >>= _) = _
  rw [hexponent]
  rfl

/-- The token of a written number. -/
def natToken (n : Nat) : NumberToken :=
  ⟨false, natText n, none, none⟩

/-- The digits of a number do not start with a zero in front of others. -/
lemma natText_leading (n : Nat) : ∀ d ds, natText n ≠ '0' :: d :: ds := by
  intro d ds heq
  rcases Nat.eq_zero_or_pos n with rfl | hpos
  · cases heq
  · exact head?_natText_ne hpos (by rw [heq]; rfl)

/-- A written number is scanned up to its end. -/
lemma scanNumber_natText (n : Nat) {rest : List Char} (h : Ends rest) :
    scanNumber (natText n ++ rest) = .ok (natToken n, rest) := by
  have hscan := scanNumber_text (t := natToken n)
    ⟨isDigits_natText n, natText_leading n, fun ds hds => by cases hds⟩ h
  simpa [NumberToken.text, natToken, signed] using hscan

/-- More digits make a number larger. -/
lemma le_ofDigitChars (start : Nat) (ds : List Char) : start ≤ Nat.ofDigitChars 10 ds start := by
  induction ds generalizing start with
  | nil => exact le_rfl
  | cons d ds ih =>
    rw [Nat.ofDigitChars_cons]
    exact le_trans (by omega) (ih _)

/-- Leading digits of a number below `2 ^ 64` are all of its digits. -/
lemma leadingValue_eq {start : Nat} {ds : List Char} (h : Nat.ofDigitChars 10 ds start < word64) :
    leadingValue start ds = (Nat.ofDigitChars 10 ds start, 0) := by
  induction ds generalizing start with
  | nil => rfl
  | cons d ds ih =>
    have hnext : digitsValue [d] + 10 * start = 10 * start + (d.toNat - '0'.toNat) := by
      simp [digitsValue, Nat.ofDigitChars_cons, Nat.add_comm]
    rw [Nat.ofDigitChars_cons] at h ⊢
    have hlt : 10 * start + (d.toNat - '0'.toNat) < word64 := (le_ofDigitChars _ ds).trans_lt h
    rw [leadingValue, hnext, if_pos hlt, ih h]

/-- The bits of a natural number below `2 ^ 64` are finite. -/
lemma nearestBits_lt {n : Nat} (h : n < word64) : nearestBits n 1 < infinityBits := by
  obtain ⟨scaled, hscaled⟩ : ∃ m, m = n * 2 ^ 1074 := ⟨_, rfl⟩
  have hlog : scaled.log2 ≤ 1137 := by
    rcases Nat.eq_zero_or_pos n with rfl | hpos
    · rw [hscaled]
      simp
    · have hn : n.log2 < 64 := (Nat.log2_lt hpos.ne').2 h
      rw [hscaled, log2_mul_two_pow hpos]
      omega
  have hquotient : scaled / 2 ^ (scaled.log2 - 52) < 2 ^ 53 := by
    rw [Nat.div_lt_iff_lt_mul (Nat.two_pow_pos _), ← pow_add]
    exact Nat.lt_log2_self.trans_le (Nat.pow_le_pow_right (by decide) (by omega))
  have hround := roundHalfEven_le scaled (2 ^ (scaled.log2 - 52))
  rw [nearestBits_eq_min hscaled, Nat.div_one, Nat.one_mul]
  refine (Nat.min_le_left _ _).trans_lt ?_
  rw [infinityBits_eq]
  omega

/-- No natural number below `2 ^ 64` is beyond the range of floats. -/
lemma isHuge_natToken {n : Nat} (h : n < word64) : (natToken n).isHuge = false := by
  have hvalue : Nat.ofDigitChars 10 (natText n) 0 = n := digitsValue_natText n
  have hwhole : leadingValue 0 (natText n) = (n, 0) := by
    rw [leadingValue_eq (by rw [hvalue]; exact h), hvalue]
  have hone : nearestBits (10 ^ 0) 1 = oneBits := by decide +kernel
  have hbits := nearestBits_lt h
  have hfinite :
      isFinite (ofMagnitude false (nearestBits n 1) * ofMagnitude false oneBits) = true := by
    rw [ofMagnitude_mul_one hbits, isFinite, magnitudeBits_ofMagnitude hbits]
    exact decide_eq_true hbits
  unfold NumberToken.isHuge natToken
  simp only [hwhole, Option.getD_none, leadingValue]
  split_ifs
  · rfl
  · change (308 < 0 || !isFinite (ofMagnitude false (nearestBits n 1) *
      ofMagnitude false (nearestBits (10 ^ 0) 1))) = false
    rw [hone, hfinite]
    decide

/-- A written number below `2 ^ 64` is read as its token. -/
lemma readNumber_natText {n : Nat} (hn : n < word64) {rest : List Char} (h : Ends rest) :
    readNumber (natText n ++ rest) = .ok (natToken n, rest) := by
  unfold readNumber
  rw [scanNumber_natText n h]
  change (if (natToken n).isHuge then throw Fault.malformed else pure (natToken n, rest)) = _
  rw [isHuge_natToken hn]
  rfl

end CircuitBench.Json
