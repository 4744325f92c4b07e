import Mathlib
import CircuitBench.Circuit.Expression
import CircuitBench.Proofs.Outcomes
import CircuitBench.Proofs.Text.Pieces

/-!
# Readers and chains

The readers of the expression grammar use up their text (`Reader.Shortens`), so the length of the
text is fuel enough for every chain of operators. With that, a chain is described by what one turn
does: it ends with the text (`resume_nil`), it stops in front of a character that is no operator
(`resume_stop`), or it reads one more operand (`resume_step`). The ways in which a signed atom is
read are said once, by `unaryRead_of_readUnary`.
-/

namespace CircuitBench.Expression

/-! ### Characters -/

/-- What continues a name is no blank. -/
lemma isBlank_of_isNameChar {c : Char} (h : isNameChar c = true) : Text.isBlank c = false := by
  unfold isNameChar at h
  rcases Bool.or_eq_true_iff.1 h with h | h
  · exact Text.isBlank_of_isAlphanum h
  · rw [beq_iff_eq.1 h]
    decide

/-- What starts a number is no blank. -/
lemma isBlank_of_isNumberStart {c : Char} (h : isNumberStart c = true) :
    Text.isBlank c = false := by
  unfold isNumberStart at h
  rcases Bool.or_eq_true_iff.1 h with h | h
  · exact Text.isBlank_of_isDigit h
  · rw [beq_iff_eq.1 h]
    decide

/-! ### Chains -/

/-- A reader that leaves no more than it was given. -/
def Reader.Shortens (r : Reader) : Prop :=
  ∀ cs tree rest, r cs = .ok (tree, rest) → rest.length ≤ cs.length

/-- A chain that goes on behind its left operand, with fuel enough for the text. -/
def resume (operator? : Char → Option Operator) (operand : Reader) (left : Expression) : Reader :=
  fun cs => chain operator? operand cs.length left cs

section Turns

variable {operator? : Char → Option Operator} {operand : Reader}

/-- A chain ends with its text. -/
lemma chain_of_nil {cs : List Char} (h : Text.trimStart cs = []) (fuel : Nat) (left : Expression) :
    chain operator? operand (fuel + 1) left cs = .ok (left, []) := by
  rw [chain, h]

/-- A chain stops in front of a character that is no operator. -/
lemma chain_of_stop {c : Char} {cs rest : List Char} (h : Text.trimStart cs = c :: rest)
    (hc : operator? c = none) (fuel : Nat) (left : Expression) :
    chain operator? operand (fuel + 1) left cs = .ok (left, c :: rest) := by
  rw [chain, h]
  dsimp only
  rw [hc]

/-- A chain goes on behind an operator and its right operand. -/
lemma chain_of_step {c : Char} {cs rest : List Char} {op : Operator}
    (h : Text.trimStart cs = c :: rest) (hc : operator? c = some op) (fuel : Nat)
    (left : Expression) :
    chain operator? operand (fuel + 1) left cs = (operand rest).bind fun p =>
      chain operator? operand fuel (.binary op left p.1) p.2 := by
  rw [chain, h]
  dsimp only
  rw [hc]
  rfl

/-- Chains shorten their texts when their operands do. -/
lemma shortens_chain (h : operand.Shortens) (fuel : Nat) (left : Expression) :
    Reader.Shortens (chain operator? operand fuel left) := by
  intro cs tree rest hread
  induction fuel generalizing left cs with
  | zero =>
    cases hread
    exact le_rfl
  | succ fuel ih =>
    rcases htrim : Text.trimStart cs with _ | ⟨c, tail⟩
    · rw [chain_of_nil htrim] at hread
      cases hread
      exact Nat.zero_le _
    · have hlt := Text.length_lt_of_trimStart htrim
      rcases hc : operator? c with _ | op
      · rw [chain_of_stop htrim hc] at hread
        cases hread
        exact hlt
      · rw [chain_of_step htrim hc] at hread
        obtain ⟨⟨right, mid⟩, hright, hrest⟩ := of_bind_eq_ok hread
        have hmid := h _ _ _ hright
        exact ((ih _ _ hrest).trans hmid).trans hlt.le

/-- More fuel than the text is long does not change a chain. -/
lemma chain_fuel (h : operand.Shortens) {fuel fuel' : Nat} {cs : List Char}
    (hle : cs.length ≤ fuel) (hle' : cs.length ≤ fuel') (left : Expression) :
    chain operator? operand fuel left cs = chain operator? operand fuel' left cs := by
  induction fuel generalizing fuel' left cs with
  | zero =>
    rw [List.length_eq_zero_iff.1 (Nat.le_zero.1 hle)]
    cases fuel' with
    | zero => rfl
    | succ fuel' =>
      rw [chain_of_nil rfl]
      rfl
  | succ fuel ih =>
    cases fuel' with
    | zero =>
      rw [List.length_eq_zero_iff.1 (Nat.le_zero.1 hle'), chain_of_nil rfl]
      rfl
    | succ fuel' =>
      rcases htrim : Text.trimStart cs with _ | ⟨c, tail⟩
      · rw [chain_of_nil htrim, chain_of_nil htrim]
      · have hlt := Text.length_lt_of_trimStart htrim
        rcases hc : operator? c with _ | op
        · rw [chain_of_stop htrim hc, chain_of_stop htrim hc]
        · rw [chain_of_step htrim hc, chain_of_step htrim hc]
          rcases hright : operand tail with e | ⟨right, mid⟩
          · rfl
          · have hmid := h _ _ _ hright
            have hfuel : mid.length ≤ fuel := by omega
            have hfuel' : mid.length ≤ fuel' := by omega
            exact ih hfuel hfuel' _

/-- A chain of the grammar has fuel enough. -/
lemma chain_eq_resume (h : operand.Shortens) {fuel : Nat} {cs : List Char} (hle : cs.length ≤ fuel)
    (left : Expression) :
    chain operator? operand fuel left cs = resume operator? operand left cs :=
  chain_fuel h hle le_rfl left

/-- Operands with operators between them are one operand and a chain behind it. -/
lemma readChain_eq (cs : List Char) :
    readChain operator? operand cs =
      (operand cs).bind fun p => resume operator? operand p.1 p.2 := rfl

/-- A chain ends with its text. -/
lemma resume_nil {cs : List Char} (h : Text.trimStart cs = []) (left : Expression) :
    resume operator? operand left cs = .ok (left, []) := by
  unfold resume
  cases cs with
  | nil => rfl
  | cons c cs => exact chain_of_nil h _ _

/-- A chain stops in front of a character that is no operator. -/
lemma resume_stop {c : Char} {cs rest : List Char} (h : Text.trimStart cs = c :: rest)
    (hc : operator? c = none) (left : Expression) :
    resume operator? operand left cs = .ok (left, c :: rest) := by
  unfold resume
  cases cs with
  | nil => cases h
  | cons d cs => exact chain_of_stop h hc _ _

/-- A chain goes on behind an operator and its right operand. -/
lemma resume_step (hoperand : operand.Shortens) {c : Char} {cs rest : List Char} {op : Operator}
    (h : Text.trimStart cs = c :: rest) (hc : operator? c = some op) (left : Expression) :
    resume operator? operand left cs = (operand rest).bind fun p =>
      resume operator? operand (.binary op left p.1) p.2 := by
  have hlt := Text.length_lt_of_trimStart h
  cases cs with
  | nil => cases h
  | cons d cs =>
    rw [List.length_cons] at hlt
    unfold resume
    rw [List.length_cons, chain_of_step h hc]
    rcases hright : operand rest with e | ⟨right, mid⟩
    · rfl
    · have hmid := hoperand _ _ _ hright
      have hfuel : mid.length ≤ cs.length := by omega
      exact chain_eq_resume hoperand hfuel _

/-- Chains shorten their texts when their operands do. -/
lemma shortens_readChain (h : operand.Shortens) :
    Reader.Shortens (readChain operator? operand) := by
  intro cs tree rest hread
  rw [readChain_eq] at hread
  obtain ⟨⟨first, mid⟩, hfirst, hrest⟩ := of_bind_eq_ok hread
  exact (shortens_chain h _ _ _ _ _ hrest).trans (h _ _ _ hfirst)

end Turns

/-! ### The readers of the grammar -/

/-- What starts with no sign has none. -/
lemma spanSign_of_ne {c : Char} (hplus : c ≠ '+') (hminus : c ≠ '-') (cs : List Char) :
    spanSign (c :: cs) = ([], c :: cs) := by
  unfold spanSign
  split
  · next heq => exact absurd (List.cons.inj heq).1 hplus
  · next heq => exact absurd (List.cons.inj heq).1 hminus
  · rfl

/-- A number's span leaves the rest of the text. -/
lemma spanNumber_fst_append_snd (cs : List Char) : (spanNumber cs).1 ++ (spanNumber cs).2 = cs := by
  have hsplit := List.takeWhile_append_dropWhile (p := isNumberStart) (l := cs)
  have hsign : ∀ ds, (spanSign ds).1 ++ (spanSign ds).2 = ds := by
    intro ds
    unfold spanSign
    split <;> rfl
  unfold spanNumber
  dsimp only
  split
  · next h =>
    rw [h] at hsplit
    exact hsplit
  · next c rest h =>
    rw [h] at hsplit
    split_ifs
    · conv_rhs => rw [← hsplit, ← hsign rest,
        ← List.takeWhile_append_dropWhile (p := Char.isDigit) (l := (spanSign rest).2)]
      simp
    · exact hsplit

/-- Leaves shorten their texts. -/
lemma shortens_readLeaf : Reader.Shortens readLeaf := by
  intro cs tree rest h
  unfold readLeaf at h
  split at h
  · cases h
  · next c tail htrim =>
    have hlt := Text.length_lt_of_trimStart htrim
    split_ifs at h
    · have hspan := congrArg List.length (spanNumber_fst_append_snd (c :: tail))
      rw [List.length_append, List.length_cons] at hspan
      dsimp only at h
      split at h
      · cases h
        omega
      · cases h
    · dsimp only at h
      split_ifs at h
      cases h
      have hle := (List.dropWhile_sublist isNameChar (l := c :: tail)).length_le
      rw [List.length_cons] at hle
      omega

/-- The bracket that closes a group is used up. -/
lemma of_closeGroup_eq_ok {inner tree : Expression} {cs rest : List Char}
    (h : closeGroup inner cs = .ok (tree, rest)) :
    Text.trimStart cs = ')' :: rest ∧ tree = .group inner := by
  unfold closeGroup at h
  split at h
  · next tail htrim =>
    cases h
    exact ⟨htrim, rfl⟩
  · cases h
  · cases h

/-- The products of what a reader reads. -/
def readProduct (unary : Reader) : Reader :=
  readChain productOperator? unary

/-- Products shorten their texts when their operands do. -/
lemma shortens_readProduct {unary : Reader} (h : unary.Shortens) : (readProduct unary).Shortens :=
  shortens_readChain h

/-- Sums shorten their texts when their operands do. -/
lemma shortens_readSum {unary : Reader} (h : unary.Shortens) : (readSum unary).Shortens :=
  shortens_readChain (shortens_readProduct h)

section Unary

variable {cs rest : List Char} {level : Nat}

/-- A sign is read with its operand, one level further in. -/
lemma readUnary_minus (h : Text.trimStart cs = '-' :: rest) :
    readUnary (level + 1) cs = (readUnary level rest).bind fun p => .ok (.negative p.1, p.2) := by
  rw [readUnary]
  simp only [h]
  rfl

/-- A sign is read with its operand, one level further in. -/
lemma readUnary_plus (h : Text.trimStart cs = '+' :: rest) :
    readUnary (level + 1) cs = (readUnary level rest).bind fun p => .ok (.positive p.1, p.2) := by
  rw [readUnary]
  simp only [h]
  rfl

/-- A group is read with what it holds, one level further in. -/
lemma readUnary_open (h : Text.trimStart cs = '(' :: rest) :
    readUnary (level + 1) cs = (readSum (readUnary level) rest).bind fun p =>
      closeGroup p.1 p.2 := by
  rw [readUnary]
  simp only [h]
  rfl

/-- At the deepest level there are no signs and groups. -/
lemma readUnary_zero {c : Char} (h : Text.trimStart cs = c :: rest)
    (hc : c = '-' ∨ c = '+' ∨ c = '(') : readUnary 0 cs = .error .tooDeep := by
  rw [readUnary]
  rcases hc with rfl | rfl | rfl <;> simp only [h]

/-- All other texts are read as a leaf at every level. -/
lemma readUnary_leaf (h : ∀ c ∈ (Text.trimStart cs).head?, c ≠ '-' ∧ c ≠ '+' ∧ c ≠ '(') :
    readUnary level cs = readLeaf cs := by
  cases level with
  | zero =>
    rw [readUnary]
    dsimp only
    split
    · next heq => simp [heq] at h
    · next heq => simp [heq] at h
    · next heq => simp [heq] at h
    · rfl
  | succ level =>
    rw [readUnary]
    dsimp only
    split
    · next heq => simp [heq] at h
    · next heq => simp [heq] at h
    · next heq => simp [heq] at h
    · rfl

end Unary

/-- The four ways in which a signed atom starts. -/
lemma unary_cases (cs : List Char) :
    (∃ rest, Text.trimStart cs = '-' :: rest) ∨ (∃ rest, Text.trimStart cs = '+' :: rest) ∨
      (∃ rest, Text.trimStart cs = '(' :: rest) ∨
        ∀ c ∈ (Text.trimStart cs).head?, c ≠ '-' ∧ c ≠ '+' ∧ c ≠ '(' := by
  rcases Text.trimStart cs with _ | ⟨c, rest⟩
  · exact .inr (.inr (.inr (by simp)))
  · by_cases hminus : c = '-'
    · exact .inl ⟨rest, by rw [hminus]⟩
    by_cases hplus : c = '+'
    · exact .inr (.inl ⟨rest, by rw [hplus]⟩)
    by_cases hopen : c = '('
    · exact .inr (.inr (.inl ⟨rest, by rw [hopen]⟩))
    · refine .inr (.inr (.inr ?_))
      intro d hd
      obtain rfl : c = d := by simpa using hd
      exact ⟨hminus, hplus, hopen⟩

/-- How a signed atom is read: as a leaf at every level, and one level further in as a sign with its
operand or as a group with what it holds. -/
inductive UnaryRead : Nat → List Char → Expression → List Char → Prop
  | leaf {level : Nat} {cs rest : List Char} {tree : Expression}
    (hread : readLeaf cs = .ok (tree, rest)) : UnaryRead level cs tree rest
  | negative {level : Nat} {cs tail rest : List Char} {operand : Expression}
    (htrim : Text.trimStart cs = '-' :: tail) (hread : readUnary level tail = .ok (operand, rest)) :
    UnaryRead (level + 1) cs (.negative operand) rest
  | positive {level : Nat} {cs tail rest : List Char} {operand : Expression}
    (htrim : Text.trimStart cs = '+' :: tail) (hread : readUnary level tail = .ok (operand, rest)) :
    UnaryRead (level + 1) cs (.positive operand) rest
  | group {level : Nat} {cs tail mid rest : List Char} {inner : Expression}
    (htrim : Text.trimStart cs = '(' :: tail)
    (hread : readSum (readUnary level) tail = .ok (inner, mid))
    (hclose : Text.trimStart mid = ')' :: rest) : UnaryRead (level + 1) cs (.group inner) rest

/-- What is read as a signed atom is read in one of these ways. -/
lemma unaryRead_of_readUnary {level : Nat} {cs rest : List Char} {tree : Expression}
    (h : readUnary level cs = .ok (tree, rest)) : UnaryRead level cs tree rest := by
  rcases unary_cases cs with ⟨tail, htrim⟩ | ⟨tail, htrim⟩ | ⟨tail, htrim⟩ | hleaf
  · cases level with
    | zero =>
      rw [readUnary_zero htrim (by simp)] at h
      cases h
    | succ level =>
      rw [readUnary_minus htrim] at h
      obtain ⟨⟨operand, mid⟩, hread, hok⟩ := of_bind_eq_ok h
      cases hok
      exact .negative htrim hread
  · cases level with
    | zero =>
      rw [readUnary_zero htrim (by simp)] at h
      cases h
    | succ level =>
      rw [readUnary_plus htrim] at h
      obtain ⟨⟨operand, mid⟩, hread, hok⟩ := of_bind_eq_ok h
      cases hok
      exact .positive htrim hread
  · cases level with
    | zero =>
      rw [readUnary_zero htrim (by simp)] at h
      cases h
    | succ level =>
      rw [readUnary_open htrim] at h
      obtain ⟨⟨inner, mid⟩, hread, hok⟩ := of_bind_eq_ok h
      obtain ⟨hclose, rfl⟩ := of_closeGroup_eq_ok hok
      exact .group htrim hread hclose
  · rw [readUnary_leaf hleaf] at h
    exact .leaf h

/-- Signed atoms shorten their texts. -/
lemma shortens_readUnary (level : Nat) : (readUnary level).Shortens := by
  induction level with
  | zero =>
    intro cs tree rest h
    cases unaryRead_of_readUnary h with
    | leaf hread => exact shortens_readLeaf _ _ _ hread
  | succ level ih =>
    intro cs tree rest h
    cases unaryRead_of_readUnary h with
    | leaf hread => exact shortens_readLeaf _ _ _ hread
    | negative htrim hread => exact (ih _ _ _ hread).trans (Text.length_lt_of_trimStart htrim).le
    | positive htrim hread => exact (ih _ _ _ hread).trans (Text.length_lt_of_trimStart htrim).le
    | group htrim hread hclose =>
      have hle := shortens_readSum ih _ _ _ hread
      exact (Text.length_lt_of_trimStart hclose).le.trans
        (hle.trans (Text.length_lt_of_trimStart htrim).le)

end CircuitBench.Expression
