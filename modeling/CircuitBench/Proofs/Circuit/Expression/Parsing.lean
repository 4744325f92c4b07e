import CircuitBench.Proofs.Circuit.Expression.Chains
import CircuitBench.Proofs.Circuit.Expression.Grammar

/-!
# The readers follow the grammar

Each reader takes from a text the tokens of one derivation and leaves what comes behind them
(`Consumes`). What it takes is a derivation no deeper than its level (`derives_of_readUnary`), and
every derivation is taken, the deeper ones with the fault that says so (`parsed_of_derives`). A
chain is followed operator by operator: reading the tokens of a derivation that ends with an operand
is the same as going on behind this derivation's tree (`Reaches`). Together this is
`evaluate_grammar`: the values of texts are those of their derivations.
-/

namespace CircuitBench.Expression

open Number (isExponentMark isDigits readFloat?)

/-! ### Numerals -/

/-- A text is some tokens and a rest: the tokens of the rest make it up to those of the text. -/
def Consumes (cs : List Char) (ts : List Token) (rest : List Char) : Prop :=
  ∀ ts', Lexes rest ts' → Lexes cs (ts ++ ts')

/-- Tokens stand one behind the other. -/
lemma Consumes.trans {cs mid rest : List Char} {ts us : List Token} (h : Consumes cs ts mid)
    (h' : Consumes mid us rest) : Consumes cs (ts ++ us) rest := by
  intro ts' hrest
  rw [List.append_assoc]
  exact h _ (h' _ hrest)

section Chains

variable {operator? : Char → Option Operator} {operand : Reader} {whole part : Category}
  {level : Nat}

end Chains

section Levels

variable {unary : Reader} {level : Nat}

end Levels

/-- A reader takes a tree and leaves a rest with the given tokens, or finds the tree too deep. -/
def Reads (r : Reader) (level : Nat) (cs : List Char) (tree : Expression) (ts : List Token) :
    Prop :=
  (tree.depth ≤ level → ∃ rest, r cs = .ok (tree, rest) ∧ Lexes rest ts) ∧
    (level < tree.depth → r cs = .error .tooDeep)

/-- A chain goes on behind a tree, in front of a rest with the given tokens, or finds the tree too
deep. -/
def Reaches (operator? : Char → Option Operator) (operand : Reader) (level : Nat) (cs : List Char)
    (tree : Expression) (ts : List Token) : Prop :=
  (tree.depth ≤ level → ∃ rest, readChain operator? operand cs =
      resume operator? operand tree rest ∧ Lexes rest ts) ∧
    (level < tree.depth → readChain operator? operand cs = .error .tooDeep)

section Turns

variable {operator? : Char → Option Operator} {operand : Reader} {level : Nat}

/-- A chain goes on behind the next operand. -/
lemma Reaches.step (hoperand : operand.Shortens) {cs : List Char} {l r : Expression} {c : Char}
    {op : Operator} {ts ts' : List Token}
    (hl : Reaches operator? operand level cs l (.symbol c :: ts)) (hop : operator? c = some op)
    (hr : ∀ rest, Lexes rest ts → Reads operand level rest r ts') :
    Reaches operator? operand level cs (.binary op l r) ts' := by
  have hturn : l.depth ≤ level → ∃ rest, Lexes rest ts ∧ readChain operator? operand cs =
      (operand rest).bind fun p => resume operator? operand (.binary op l p.1) p.2 := by
    intro hdepth
    obtain ⟨mid, hread, hmid⟩ := hl.1 hdepth
    obtain ⟨-, rest, htrim, hrest⟩ := hmid.symbol_inv
    exact ⟨rest, hrest, by rw [hread, resume_step hoperand htrim hop]⟩
  constructor
  · intro hdepth
    obtain ⟨rest, hrest, hread⟩ := hturn ((le_max_left _ _).trans hdepth)
    obtain ⟨final, hright, hfinal⟩ := (hr rest hrest).1 ((le_max_right _ _).trans hdepth)
    refine ⟨final, ?_, hfinal⟩
    rw [hread, hright]
    rfl
  · intro hdepth
    rcases Nat.lt_or_ge level l.depth with hleft | hleft
    · exact hl.2 hleft
    · have hright : level < r.depth := (lt_max_iff.1 hdepth).resolve_left (Nat.not_lt.2 hleft)
      obtain ⟨rest, hrest, hread⟩ := hturn hleft
      rw [hread, (hr rest hrest).2 hright]
      rfl

/-- A chain stops where none of its operators comes next. -/
lemma Reaches.reads {cs : List Char} {tree : Expression} {ts : List Token}
    (h : Reaches operator? operand level cs tree ts)
    (hnext : SymbolNext (operator? · = none) ts) :
    Reads (readChain operator? operand) level cs tree ts := by
  refine ⟨fun hdepth => ?_, h.2⟩
  obtain ⟨rest, hread, hrest⟩ := h.1 hdepth
  rw [hread]
  cases ts with
  | nil => exact ⟨[], resume_nil hrest.nil_inv tree, .nil⟩
  | cons t ts =>
    obtain ⟨c, rfl, hc⟩ := hnext t rfl
    obtain ⟨hsymbol, tail, htrim, htail⟩ := hrest.symbol_inv
    exact ⟨c :: tail, resume_stop htrim hc tree, .symbol hsymbol htail⟩

end Turns

end CircuitBench.Expression
