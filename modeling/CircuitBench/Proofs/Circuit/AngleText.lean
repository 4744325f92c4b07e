import CircuitBench.Circuit.Expression
import CircuitBench.Proofs.Number.PlainText

/-!
# Written angles are expressions

Angles are written as a plain number, with `.0` on whole ones, or as a plain number of `pi`. The
grammar of expressions has no negative numbers, so the sign of a written angle is read as an
operator in front of its magnitude (`readUnary_signed`). An angle in half-turns is read as itself
(`evaluate_halfTurnsText`), and an angle in radians as its product with `pi`
(`evaluate_plainText_pi`).
-/

namespace CircuitBench.Expression

open Number

/-! ### Numerals as leaves -/

/-- A character that a numeral could go on with. -/
def continuesNumeral (c : Char) : Bool :=
  isNumberStart c || isExponentMark c

/-- A numeral text is read up to its end. -/
lemma spanNumber_append {cs rest : List Char} {units : Nat} (h : DenotesUnits cs units)
    (hrest : Text.Stops continuesNumeral rest) : spanNumber (cs ++ rest) = (cs, rest) := by
  obtain ⟨whole, fraction, rfl, hwhole, hfraction, -⟩ := h
  have hall : (whole ++ pointed fraction).all isNumberStart = true := by
    rw [List.all_eq_true]
    intro c hc
    rcases mem_numeral hwhole hfraction hc with h | rfl
    · simp [isNumberStart, h]
    · rfl
  have hstop : Text.Stops isNumberStart rest := by
    intro c hc
    exact (Bool.or_eq_false_iff.1 (hrest c hc)).1
  unfold spanNumber
  rw [Text.takeWhile_append hall hstop, Text.dropWhile_append hall hstop]
  cases rest with
  | nil => rfl
  | cons c rest =>
    have hmark := (Bool.or_eq_false_iff.1 (Text.stops_cons.1 hrest)).2
    simp [hmark]

/-- A numeral text in front of a text is a leaf. -/
lemma readLeaf_append {cs rest : List Char} {bits units : Nat} (hfin : bits < infinityBits)
    (hround : RoundsTo units bits) (h : DenotesUnits cs units)
    (hrest : Text.Stops continuesNumeral rest) :
    readLeaf (cs ++ rest) = .ok (.number (ofMagnitude false bits), rest) := by
  have hspan := spanNumber_append h hrest
  have hfloat := readFloat?_of_denotesUnits hfin hround h
  obtain ⟨c, tail, rfl, hc⟩ := h.exists_cons
  have hstart : isNumberStart c = true := by simp [isNumberStart, hc]
  rw [List.cons_append] at hspan ⊢
  unfold readLeaf
  rw [Text.trimStart_cons_of_not_isBlank (Text.isBlank_of_isDigit hc)]
  simp only [hstart, if_true, hspan, hfloat]

/-- A text that starts with a digit is read as a leaf at every depth. -/
lemma readUnary_of_isDigit {c : Char} (hc : c.isDigit = true) (level : Nat) (cs : List Char) :
    readUnary level (c :: cs) = readLeaf (c :: cs) := by
  have htrim := Text.trimStart_cons_of_not_isBlank (Text.isBlank_of_isDigit hc) cs
  have hsign : ∀ d : Char, d.isDigit = false → c ≠ d := by
    rintro d hd rfl
    rw [hc] at hd
    cases hd
  have hminus := hsign '-' rfl
  have hplus := hsign '+' rfl
  have hopen := hsign '(' rfl
  cases level with
  | zero => simp [readUnary, htrim, hminus, hplus, hopen]
  | succ level => simp [readUnary, htrim, hminus, hplus, hopen]

/-- A numeral text with its sign is read up to its end. -/
lemma readUnary_signed {cs rest : List Char} {bits units : Nat} (hfin : bits < infinityBits)
    (hround : RoundsTo units bits) (h : DenotesUnits cs units)
    (hrest : Text.Stops continuesNumeral rest) (negative : Bool) (level : Nat) :
    ∃ tree, readUnary (level + 1) (signed negative cs ++ rest) = .ok (tree, rest) ∧
      tree.value = ofMagnitude negative bits := by
  have hread : ∀ l, readUnary l (cs ++ rest) = .ok (.number (ofMagnitude false bits), rest) := by
    intro l
    have hleaf := readLeaf_append hfin hround h hrest
    obtain ⟨c, tail, rfl, hc⟩ := h.exists_cons
    rw [List.cons_append] at hleaf ⊢
    rw [readUnary_of_isDigit hc, hleaf]
  cases negative with
  | false => exact ⟨_, hread _, rfl⟩
  | true =>
    refine ⟨.negative (.number (ofMagnitude false bits)), ?_, neg_ofMagnitude hfin⟩
    have htrim : Text.trimStart ('-' :: (cs ++ rest)) = '-' :: (cs ++ rest) :=
      Text.trimStart_cons_of_not_isBlank (by decide) _
    rw [signed, if_pos rfl, List.cons_append, readUnary]
    simp only [htrim, hread level]
    rfl

/-! ### Chains -/

/-- A chain ends where a text ends. -/
@[simp] lemma chain_nil (operator? : Char → Option Operator) (operand : Reader) (fuel : Nat)
    (left : Expression) : chain operator? operand fuel left [] = .ok (left, []) := by
  cases fuel <;> simp [chain]

/-- A whole text that is one operand is that operand. -/
lemma read_of_readUnary {cs : List Char} {tree : Expression}
    (h : readUnary maxDepth cs = .ok (tree, [])) : read cs = .ok tree := by
  have hproduct : readChain productOperator? (readUnary maxDepth) cs = .ok (tree, []) := by
    rw [readChain, h]
    exact chain_nil _ _ _ _
  have hsum : readSum (readUnary maxDepth) cs = .ok (tree, []) := by
    rw [readSum, readChain, hproduct]
    exact chain_nil _ _ _ _
  rw [read, hsum]
  rfl

/-- A whole text that is one operand times `pi` is that product. -/
lemma read_of_readUnary_pi {cs : List Char} {tree : Expression}
    (h : readUnary maxDepth cs = .ok (tree, ['*', 'p', 'i'])) :
    read cs = .ok (.binary .multiply tree .pi) := by
  have hpi : readUnary maxDepth ['p', 'i'] = .ok (.pi, []) := rfl
  have htrim : Text.trimStart ['*', 'p', 'i'] = ['*', 'p', 'i'] := rfl
  have hchain : chain productOperator? (readUnary maxDepth) 3 tree ['*', 'p', 'i']
      = .ok (.binary .multiply tree .pi, []) := by
    rw [chain, htrim]
    dsimp only [productOperator?]
    rw [hpi]
    exact chain_nil _ _ _ _
  have hproduct : readChain productOperator? (readUnary maxDepth) cs
      = .ok (.binary .multiply tree .pi, []) := by
    rw [readChain, h]
    exact hchain
  have hsum : readSum (readUnary maxDepth) cs = .ok (.binary .multiply tree .pi, []) := by
    rw [readSum, readChain, hproduct]
    exact chain_nil _ _ _ _
  rw [read, hsum]
  rfl

end CircuitBench.Expression

namespace CircuitBench

open Number Expression

/-! ### Written angles -/

/-- The plain form of a finite float, a numeral with its sign, is read up to its end. -/
lemma readUnary_plainText {x : Float} (h : isFinite x = true) {rest : List Char}
    (hrest : Text.Stops continuesNumeral rest) :
    ∃ tree, readUnary maxDepth (plainText x ++ rest) = .ok (tree, rest) ∧ tree.value = x := by
  have hfin : magnitudeBits x < infinityBits := by simpa [isFinite] using h
  obtain ⟨units, hround, hunits⟩ := denotesUnits_magnitudeText x
  obtain ⟨tree, hread, hvalue⟩ :=
    readUnary_signed hfin hround hunits hrest (isNegative x) (maxDepth - 1)
  rw [plainText_eq h]
  exact ⟨tree, hread, by rw [hvalue, ofMagnitude_magnitudeBits h]⟩

/-- An angle that is written as a number of `pi` is read as its product with `pi`. -/
theorem evaluate_plainText_pi {x : Float} (h : isFinite x = true) :
    evaluate (plainText x ++ ['*', 'p', 'i']) = .ok (x * Number.pi) := by
  have hstop : Text.Stops continuesNumeral ['*', 'p', 'i'] := Text.stops_cons.2 rfl
  obtain ⟨tree, hread, hvalue⟩ := readUnary_plainText h hstop
  rw [evaluate, read_of_readUnary_pi hread]
  change Except.ok (tree.value * Number.pi) = _
  rw [hvalue]

/-- An angle in half-turns is read as itself. -/
theorem evaluate_halfTurnsText {x : Float} (h : isFinite x = true) :
    evaluate (halfTurnsText x) = .ok x := by
  have hfin : magnitudeBits x < infinityBits := by simpa [isFinite] using h
  obtain ⟨units, hround, hunits⟩ := denotesUnits_magnitudeText x
  have htext : ∃ cs, DenotesUnits cs units ∧ halfTurnsText x = signed (isNegative x) cs := by
    by_cases hpoint : '.' ∈ magnitudeText x
    · refine ⟨magnitudeText x, hunits, ?_⟩
      have hmem : '.' ∈ plainText x := by
        rw [plainText_eq h]
        cases isNegative x <;> simp [signed, hpoint]
      rw [halfTurnsText, if_pos (by simp [hmem]), plainText_eq h]
    · refine ⟨magnitudeText x ++ ['.', '0'], hunits.append_point hpoint, ?_⟩
      have hmem : '.' ∉ plainText x := by
        rw [plainText_eq h]
        cases isNegative x <;> simp [signed, hpoint]
      rw [halfTurnsText, if_neg (by simp [hmem, h]), plainText_eq h]
      cases isNegative x <;> rfl
  obtain ⟨cs, hcs, htext⟩ := htext
  obtain ⟨tree, hread, hvalue⟩ :=
    readUnary_signed hfin hround hcs (Text.stops_nil _) (isNegative x) (maxDepth - 1)
  rw [List.append_nil] at hread
  rw [evaluate, htext, read_of_readUnary hread, Except.map, hvalue, ofMagnitude_magnitudeBits h]

end CircuitBench
