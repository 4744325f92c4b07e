import CircuitBench.Proofs.Circuit.Expression.Chains
import CircuitBench.Proofs.Text.Squeeze

/-!
# Expressions do not depend on their layout

Blanks are skipped in front of every token, and no token holds a blank. So the readers of the
grammar take the same tree from a text and from the squeezed text, leave the squeezed rest, and find
the same faults (`Reader.IgnoresLayout`). `evaluate_squeeze` is the consequence for whole texts.
-/

namespace CircuitBench.Expression

open Text (squeeze)

/-- A reader that takes the same from a squeezed text, and leaves the squeezed rest. -/
def Reader.IgnoresLayout (r : Reader) : Prop :=
  ∀ cs, r (squeeze cs) = (r cs).map fun p => (p.1, squeeze p.2)

/-- What marks an exponent is no blank. -/
lemma isBlank_of_isExponentMark {c : Char} (h : Number.isExponentMark c = true) :
    Text.isBlank c = false := by
  unfold Number.isExponentMark at h
  rcases Bool.or_eq_true_iff.1 h with h | h <;> rw [beq_iff_eq.1 h] <;> decide

/-- The sign of an exponent is not squeezed. -/
lemma spanSign_squeeze (cs : List Char) :
    spanSign (squeeze cs) = ((spanSign cs).1, squeeze (spanSign cs).2) := by
  cases cs with
  | nil => rfl
  | cons c cs =>
    rcases hc : Text.isBlank c with _ | _
    · rw [Text.squeeze_cons_of_visible hc]
      by_cases hplus : c = '+'
      · rw [hplus]
        rfl
      by_cases hminus : c = '-'
      · rw [hminus]
        rfl
      · rw [spanSign_of_ne hplus hminus, spanSign_of_ne hplus hminus,
          Text.squeeze_cons_of_visible hc]
    · have hnone : ∀ d ds, Text.isBlank d = true → spanSign (d :: ds) = ([], d :: ds) :=
        fun d ds hd =>
          spanSign_of_ne (Text.ne_of_class hd (by decide)) (Text.ne_of_class hd (by decide)) ds
      rw [hnone c cs hc, Text.squeeze_cons_of_isBlank hc, hnone _ _ Text.isBlank_space]

/-- A number is not squeezed. -/
lemma spanNumber_squeeze (cs : List Char) :
    spanNumber (squeeze cs) = ((spanNumber cs).1, squeeze (spanNumber cs).2) := by
  have hmark : ∀ {c : Char}, Text.isBlank c = true → Number.isExponentMark c = false :=
    Text.not_of_isBlank fun _ => isBlank_of_isExponentMark
  unfold spanNumber
  dsimp only
  rw [Text.takeWhile_squeeze fun _ => isBlank_of_isNumberStart,
    Text.dropWhile_squeeze fun _ => isBlank_of_isNumberStart]
  rcases cs.dropWhile isNumberStart with _ | ⟨c, rest⟩
  · rfl
  · rcases hc : Text.isBlank c with _ | _
    · rw [Text.squeeze_cons_of_visible hc]
      dsimp only
      split_ifs
      · rw [spanSign_squeeze, Text.takeWhile_squeeze fun _ => Text.isBlank_of_isDigit,
          Text.dropWhile_squeeze fun _ => Text.isBlank_of_isDigit]
      · rw [Text.squeeze_cons_of_visible hc]
    · rw [Text.squeeze_cons_of_isBlank hc]
      dsimp only
      rw [if_neg (by simp [hmark Text.isBlank_space]),
        if_neg (by simp [hmark hc]), Text.squeeze_cons_of_isBlank hc]

/-- Leaves do not depend on their layout. -/
lemma ignoresLayout_readLeaf : Reader.IgnoresLayout readLeaf := by
  intro cs
  unfold readLeaf
  rw [Text.trimStart_squeeze]
  rcases htrim : Text.trimStart cs with _ | ⟨c, rest⟩
  · rfl
  · have hc := Text.isBlank_of_trimStart htrim
    have hspan := spanNumber_squeeze (c :: rest)
    have htake := Text.takeWhile_squeeze (fun _ => isBlank_of_isNameChar) (c :: rest)
    have hdrop := Text.dropWhile_squeeze (fun _ => isBlank_of_isNameChar) (c :: rest)
    rw [Text.squeeze_cons_of_visible hc] at hspan htake hdrop ⊢
    dsimp only
    rw [hspan, htake, hdrop]
    split_ifs
    · rcases Number.readFloat? (spanNumber (c :: rest)).1 <;> rfl
    · rfl
    · rfl
    · rfl

/-- The bracket that closes a group does not depend on the layout. -/
lemma closeGroup_squeeze (inner : Expression) (cs : List Char) :
    closeGroup inner (squeeze cs) = (closeGroup inner cs).map fun p => (p.1, squeeze p.2) := by
  unfold closeGroup
  rw [Text.trimStart_squeeze]
  rcases htrim : Text.trimStart cs with _ | ⟨c, rest⟩
  · rfl
  · rw [Text.squeeze_cons_of_visible (Text.isBlank_of_trimStart htrim)]
    by_cases hclose : c = ')'
    · rw [hclose]
      rfl
    · split
      · next heq => exact absurd (List.cons.inj heq).1 hclose
      · next heq =>
        cases heq
        rfl
      · next heq => cases heq

section Chains

variable {operator? : Char → Option Operator} {operand : Reader}

/-- What follows an operand does not depend on the layout. The induction is on the length of the
text, which every operand shortens. -/
lemma ignoresLayout_resume (hshort : operand.Shortens) (hlayout : operand.IgnoresLayout)
    (left : Expression) : Reader.IgnoresLayout (resume operator? operand left) := by
  intro cs
  induction hlength : cs.length using Nat.strong_induction_on generalizing cs left with
  | _ n ih =>
    subst hlength
    have hsqueeze := Text.trimStart_squeeze cs
    rcases htrim : Text.trimStart cs with _ | ⟨c, rest⟩
    · rw [htrim] at hsqueeze
      rw [resume_nil hsqueeze, resume_nil htrim]
      rfl
    · have hc := Text.isBlank_of_trimStart htrim
      rw [htrim, Text.squeeze_cons_of_visible hc] at hsqueeze
      rcases hop : operator? c with _ | op
      · rw [resume_stop hsqueeze hop, resume_stop htrim hop]
        exact congrArg (fun rest => Except.ok (left, rest))
          (Text.squeeze_cons_of_visible hc rest).symm
      · rw [resume_step hshort hsqueeze hop, resume_step hshort htrim hop, hlayout]
        rcases hright : operand rest with e | ⟨right, mid⟩
        · rfl
        · have hlt := Text.length_lt_of_trimStart htrim
          have hmid := hshort _ _ _ hright
          exact ih mid.length (by omega) (.binary op left right) mid rfl

/-- Chains do not depend on their layout. -/
lemma ignoresLayout_readChain (hshort : operand.Shortens) (hlayout : operand.IgnoresLayout) :
    Reader.IgnoresLayout (readChain operator? operand) := by
  intro cs
  rw [readChain_eq, readChain_eq, hlayout]
  rcases operand cs with e | ⟨first, rest⟩
  · rfl
  · exact ignoresLayout_resume hshort hlayout first rest

end Chains

/-- Sums do not depend on their layout. -/
lemma ignoresLayout_readSum {unary : Reader} (hshort : unary.Shortens)
    (hlayout : unary.IgnoresLayout) : (readSum unary).IgnoresLayout :=
  ignoresLayout_readChain (shortens_readProduct hshort) (ignoresLayout_readChain hshort hlayout)

/-- Signed atoms do not depend on their layout. -/
lemma ignoresLayout_readUnary (level : Nat) : (readUnary level).IgnoresLayout := by
  have hleaf : ∀ level cs, (∀ c ∈ (Text.trimStart cs).head?, c ≠ '-' ∧ c ≠ '+' ∧ c ≠ '(') →
      readUnary level (squeeze cs) = (readUnary level cs).map fun p => (p.1, squeeze p.2) := by
    intro level cs h
    have hsqueeze : ∀ c ∈ (Text.trimStart (squeeze cs)).head?, c ≠ '-' ∧ c ≠ '+' ∧ c ≠ '(' := by
      rw [Text.trimStart_squeeze]
      rcases htrim : Text.trimStart cs with _ | ⟨c, rest⟩
      · simp
      · rw [htrim] at h
        rw [Text.squeeze_cons_of_visible (Text.isBlank_of_trimStart htrim)]
        exact h
    rw [readUnary_leaf hsqueeze, readUnary_leaf h]
    exact ignoresLayout_readLeaf cs
  have hfront : ∀ {c cs rest}, Text.trimStart cs = c :: rest →
      Text.trimStart (squeeze cs) = c :: squeeze rest := by
    intro c cs rest htrim
    rw [Text.trimStart_squeeze, htrim,
      Text.squeeze_cons_of_visible (Text.isBlank_of_trimStart htrim)]
  induction level with
  | zero =>
    intro cs
    rcases unary_cases cs with ⟨rest, htrim⟩ | ⟨rest, htrim⟩ | ⟨rest, htrim⟩ | h
    · rw [readUnary_zero (hfront htrim) (by simp), readUnary_zero htrim (by simp)]
      rfl
    · rw [readUnary_zero (hfront htrim) (by simp), readUnary_zero htrim (by simp)]
      rfl
    · rw [readUnary_zero (hfront htrim) (by simp), readUnary_zero htrim (by simp)]
      rfl
    · exact hleaf 0 cs h
  | succ level ih =>
    intro cs
    rcases unary_cases cs with ⟨rest, htrim⟩ | ⟨rest, htrim⟩ | ⟨rest, htrim⟩ | h
    · rw [readUnary_minus (hfront htrim), readUnary_minus htrim, ih rest]
      rcases readUnary level rest <;> rfl
    · rw [readUnary_plus (hfront htrim), readUnary_plus htrim, ih rest]
      rcases readUnary level rest <;> rfl
    · rw [readUnary_open (hfront htrim), readUnary_open htrim,
        ignoresLayout_readSum (shortens_readUnary level) ih rest]
      rcases readSum (readUnary level) rest with e | ⟨inner, mid⟩
      · rfl
      · exact closeGroup_squeeze inner mid
    · exact hleaf (level + 1) cs h

/-- A squeezed text has the same tree or the same fault. -/
lemma read_squeeze (cs : List Char) : read (squeeze cs) = read cs := by
  unfold read
  rw [ignoresLayout_readSum (shortens_readUnary maxDepth) (ignoresLayout_readUnary maxDepth) cs]
  rcases readSum (readUnary maxDepth) cs with e | ⟨tree, rest⟩
  · rfl
  · dsimp only [Bind.bind, Except.bind, Except.map]
    rw [Text.trimStart_squeeze, Text.isEmpty_squeeze]

/-- A squeezed text has the same value or the same fault. -/
lemma evaluate_squeeze (cs : List Char) : evaluate (squeeze cs) = evaluate cs := by
  rw [evaluate, evaluate, read_squeeze]

end CircuitBench.Expression
