import CircuitBench.Proofs.Circuit.Expression.Layout
import CircuitBench.Proofs.Circuit.Qasm.Rereading

/-!
# Statements do not depend on their layout

A statement is cut at visible characters and at the ends of runs of blanks, and the blanks at the
ends of its parts are dropped. So a statement with squeezed runs of blanks has the same effect as
the statement itself (`addStatement_squeeze`). Faults quote parts of the statement and name its
line; up to that they are the same (`CircuitError.SameUpToLayout`).
-/

namespace CircuitBench

/-! ### Faults up to layout -/

/-- A quoted text with squeezed runs of blanks. -/
def squeezeQuote (text : String) : String :=
  String.ofList (Text.squeeze text.toList)

/-- A fault of a statement with its quotes squeezed. -/
def StatementFault.upToLayout : StatementFault → StatementFault
  | .missingSemicolon text => .missingSemicolon (squeezeQuote text)
  | .malformedRegister text => .malformedRegister (squeezeQuote text)
  | .malformedArgument text => .malformedArgument (squeezeQuote text)
  | .unreadableIndex text => .unreadableIndex (squeezeQuote text)
  | .malformedStatement text => .malformedStatement (squeezeQuote text)
  | .badParameter text cause => .badParameter (squeezeQuote text) cause
  | fault => fault

/-- Faults of programs that are of the same kind and differ at most in their lines and in the layout
of what they quote. -/
inductive CircuitError.SameUpToLayout : CircuitError → CircuitError → Prop
  | statement {line line' : Nat} {cause cause' : StatementFault}
      (h : cause.upToLayout = cause'.upToLayout) :
      SameUpToLayout (.statement line cause) (.statement line' cause')
  | unsupported {line line' : Nat} {construct construct' : String}
      (h : squeezeQuote construct = squeezeQuote construct') :
      SameUpToLayout (.unsupported line construct) (.unsupported line' construct')
  | unknownGate {line line' : Nat} (name : String) :
      SameUpToLayout (.unknownGate line name) (.unknownGate line' name)

namespace CircuitError.SameUpToLayout

variable {e e' e'' : CircuitError}

/-- Faults may be compared in any order. -/
lemma symm (h : e.SameUpToLayout e') : e'.SameUpToLayout e := by
  cases h with
  | statement h => exact .statement h.symm
  | unsupported h => exact .unsupported h.symm
  | unknownGate name => exact .unknownGate name

/-- Faults may be compared through others. -/
lemma trans (h : e.SameUpToLayout e') (h' : e'.SameUpToLayout e'') : e.SameUpToLayout e'' := by
  cases h with
  | statement h =>
    cases h' with
    | statement h' => exact .statement (h.trans h')
  | unsupported h =>
    cases h' with
    | unsupported h' => exact .unsupported (h.trans h')
  | unknownGate name =>
    cases h' with
    | unknownGate => exact .unknownGate name

end CircuitError.SameUpToLayout

/-- A squeezed quote is squeezed only once. -/
lemma squeezeQuote_ofList_squeeze (cs : List Char) :
    squeezeQuote (String.ofList (Text.squeeze cs)) = squeezeQuote (String.ofList cs) := by
  simp [squeezeQuote]

/-- Part of a squeezed quote is squeezed only once. -/
lemma squeezeQuote_append_squeeze (front : String) (cs : List Char) :
    squeezeQuote (front ++ String.ofList (Text.squeeze cs)) =
      squeezeQuote (front ++ String.ofList cs) := by
  unfold squeezeQuote
  rw [String.toList_append, String.toList_append, String.toList_ofList, String.toList_ofList,
    Text.squeeze_append_congr (Text.squeeze_squeeze cs)]

end CircuitBench

namespace CircuitBench.Qasm

open Text (squeeze)
open Expression (isNameStart isNameChar isBlank_of_isNameChar)

/-- The same result, or the same fault up to layout. -/
inductive SameUpToLayout {α : Type} : AtLine α → AtLine α → Prop
  | ok (a : α) : SameUpToLayout (.ok a) (.ok a)
  | error {e e' : CircuitError} (h : e.SameUpToLayout e') : SameUpToLayout (.error e) (.error e')

namespace SameUpToLayout

variable {α β : Type}

/-- Results may be compared in any order. -/
lemma symm {x y : AtLine α} (h : SameUpToLayout x y) : SameUpToLayout y x := by
  cases h with
  | ok a => exact .ok a
  | error h => exact .error h.symm

/-- Results may be compared through others. -/
lemma trans {x y z : AtLine α} (h : SameUpToLayout x y) (h' : SameUpToLayout y z) :
    SameUpToLayout x z := by
  cases h with
  | ok a => exact h'
  | error h =>
    cases h' with
    | error h' => exact .error (h.trans h')

/-- Faults in statements are the same whatever their lines. -/
lemma fault {line line' : Nat} {cause cause' : StatementFault}
    (h : cause.upToLayout = cause'.upToLayout) :
    SameUpToLayout (fault line cause : AtLine α) (Qasm.fault line' cause') :=
  .error (.statement h)

/-- The same steps lead to the same results. -/
lemma bind {x y : AtLine α} {f g : α → AtLine β} (h : SameUpToLayout x y)
    (hfg : ∀ a, SameUpToLayout (f a) (g a)) : SameUpToLayout (x.bind f) (y.bind g) := by
  cases h with
  | ok a => exact hfg a
  | error h => exact .error h

/-- The same results are mapped to the same. -/
lemma map {x y : AtLine α} (h : SameUpToLayout x y) (f : α → β) :
    SameUpToLayout (x.map f) (y.map f) := by
  cases h with
  | ok a => exact .ok (f a)
  | error h => exact .error h

/-- Lists are compared element by element. -/
lemma mapM {γ : Type} {f : γ → AtLine α} {g : β → AtLine α} {h : β → γ} {xs : List β}
    (hfg : ∀ x ∈ xs, SameUpToLayout (f (h x)) (g x)) :
    SameUpToLayout ((xs.map h).mapM f) (xs.mapM g) := by
  induction xs with
  | nil => exact .ok []
  | cons x xs ih =>
    rw [List.map_cons, List.mapM_cons, List.mapM_cons]
    refine (hfg x List.mem_cons_self).bind fun a => ?_
    exact (ih fun y hy => hfg y (List.mem_cons_of_mem _ hy)).bind fun others => .ok (a :: others)

/-- The same circuit is read, or none. -/
lemma ok_iff {x y : AtLine α} (h : SameUpToLayout x y) (a : α) : x = .ok a ↔ y = .ok a := by
  cases h with
  | ok b => rfl
  | error h => exact iff_of_false nofun nofun

/-- A fault of one is a fault of the other. -/
lemma exists_error {x y : AtLine α} (h : SameUpToLayout x y) {e : CircuitError}
    (hx : x = .error e) : ∃ e', y = .error e' ∧ e.SameUpToLayout e' := by
  cases h with
  | ok a => cases hx
  | error h =>
    cases hx
    exact ⟨_, rfl, h⟩

end SameUpToLayout

/-! ### Patterns -/

/-- The identifier in front of a text is not squeezed. -/
lemma spanIdentifier?_squeeze (cs : List Char) :
    spanIdentifier? (squeeze cs) = (spanIdentifier? cs).map fun p => (p.1, squeeze p.2) := by
  cases cs with
  | nil => rfl
  | cons c cs =>
    rcases hc : Text.isBlank c with _ | _
    · rw [Text.squeeze_cons_of_visible hc, spanIdentifier?, spanIdentifier?,
        Text.takeWhile_squeeze fun _ => isBlank_of_isNameChar,
        Text.dropWhile_squeeze fun _ => isBlank_of_isNameChar]
      split_ifs <;> rfl
    · have hstart : ∀ {d : Char}, Text.isBlank d = true → isNameStart d = false :=
        Text.not_of_isBlank fun _ hd => isBlank_of_isNameChar (isNameChar_of_isNameStart hd)
      rw [Text.squeeze_cons_of_isBlank hc, spanIdentifier?, spanIdentifier?,
        if_neg (by simp [hstart Text.isBlank_space]), if_neg (by simp [hstart hc])]
      rfl

/-- A text is a closing bracket when the squeezed text is. -/
lemma squeeze_eq_close_iff {cs : List Char} : squeeze cs = [']'] ↔ cs = [']'] := by
  constructor
  · intro h
    cases cs with
    | nil => cases h
    | cons c cs =>
      rcases hc : Text.isBlank c with _ | _
      · rw [Text.squeeze_cons_of_visible hc, List.cons.injEq, Text.squeeze_eq_nil_iff] at h
        rw [h.1, h.2]
      · rw [Text.squeeze_cons_of_isBlank hc] at h
        exact absurd (List.cons.inj h).1 (by decide)
  · rintro rfl
    decide

/-- No index starts with another character than a bracket. -/
lemma readIndex?_cons_of_ne {c : Char} (hc : c ≠ '[') (cs : List Char) :
    readIndex? (c :: cs) = none := by
  unfold readIndex?
  split
  · next heq => exact absurd (List.cons.inj heq).1 hc
  · rfl

/-- An index does not depend on the layout. -/
lemma readIndex?_squeeze (cs : List Char) : readIndex? (squeeze cs) = readIndex? cs := by
  cases cs with
  | nil => rfl
  | cons c cs =>
    by_cases hopen : c = '['
    · subst hopen
      rw [Text.squeeze_cons_of_visible (by decide), readIndex?, readIndex?,
        Text.trimStart_squeeze, Text.takeWhile_squeeze fun _ => Text.isBlank_of_isDigit,
        Text.dropWhile_squeeze fun _ => Text.isBlank_of_isDigit, Text.trimStart_squeeze]
      generalize Text.trimStart ((Text.trimStart cs).dropWhile Char.isDigit) = behind
      split_ifs
      · rfl
      · by_cases hclose : behind = [']']
        · rw [hclose]
          rfl
        · split
          · next heq => exact absurd (squeeze_eq_close_iff.1 heq) hclose
          · rfl
    · rw [readIndex?_cons_of_ne hopen]
      rcases hc : Text.isBlank c with _ | _
      · rw [Text.squeeze_cons_of_visible hc, readIndex?_cons_of_ne hopen]
      · rw [Text.squeeze_cons_of_isBlank hc, readIndex?_cons_of_ne (by decide)]

/-- A name with or without an index does not depend on the layout. -/
lemma readIndexed?_squeeze (cs : List Char) : readIndexed? (squeeze cs) = readIndexed? cs := by
  unfold readIndexed?
  rw [spanIdentifier?_squeeze]
  rcases spanIdentifier? cs with _ | ⟨name, rest⟩
  · rfl
  · have hindex := readIndex?_squeeze (Text.trimStart rest)
    dsimp only [Option.map_some, Option.bind_some, bind]
    rw [Text.trimStart_squeeze]
    rcases htrim : Text.trimStart rest with _ | ⟨c, behind⟩
    · rfl
    · rw [htrim, Text.squeeze_cons_of_visible (Text.isBlank_of_trimStart htrim)] at hindex
      rw [Text.squeeze_cons_of_visible (Text.isBlank_of_trimStart htrim)]
      dsimp only
      rw [hindex]

/-- A register's name and size do not depend on the layout. -/
lemma readDeclaration?_squeeze (cs : List Char) :
    readDeclaration? (squeeze cs) = readDeclaration? cs := by
  cases cs with
  | nil => rfl
  | cons c cs =>
    rcases hc : Text.isBlank c with _ | _
    · rw [Text.squeeze_cons_of_visible hc, readDeclaration?, readDeclaration?,
        if_neg (by simp [hc]), if_neg (by simp [hc])]
    · rw [Text.squeeze_cons_of_isBlank hc, readDeclaration?, readDeclaration?, if_pos hc,
        if_pos Text.isBlank_space, Text.trimStart_squeeze, Text.trimStart_trimStart,
        spanIdentifier?_squeeze]
      rcases spanIdentifier? (Text.trimStart cs) with _ | ⟨name, rest⟩
      · rfl
      · dsimp only [Option.map_some, Option.bind_some, bind]
        rw [Text.trimStart_squeeze, readIndex?_squeeze]

/-- The texts around the last closing bracket are squeezed. -/
lemma splitAtLastClose?_squeeze (cs : List Char) :
    splitAtLastClose? (squeeze cs) =
      (splitAtLastClose? cs).map fun p => (squeeze p.1, squeeze p.2) := by
  have hblank : ∀ c, Text.isBlank c = true → (c != ')') = true := fun c hc =>
    bne_iff_ne.2 (Text.ne_of_class hc (by decide))
  unfold splitAtLastClose?
  dsimp only
  rw [← Text.squeeze_reverse, Text.dropWhile_squeeze_of_blank hblank,
    Text.takeWhile_squeeze_of_blank hblank]
  have hstops := Text.stops_dropWhile (· != ')') cs.reverse
  rcases hdrop : cs.reverse.dropWhile (· != ')') with _ | ⟨c, inner⟩
  · rfl
  · rw [hdrop] at hstops
    have hclose : c = ')' := by simpa using Text.stops_cons.1 hstops
    rw [hclose, Text.squeeze_cons_of_visible (by decide)]
    dsimp only [Option.map_some]
    rw [Text.squeeze_reverse, Text.squeeze_reverse]

/-- A gate application with squeezed parts. -/
def Application.squeezed (application : Application) : Application :=
  ⟨application.gate, application.params.map squeeze, squeeze application.operands⟩

/-- The parts of a gate application are squeezed, and the gate's name is not. -/
lemma readApplication?_squeeze (cs : List Char) :
    readApplication? (squeeze cs) = (readApplication? cs).map Application.squeezed := by
  have hbracket : ∀ c, isRoundBracket c = true → Text.isBlank c = false := by
    intro c hc
    rcases Bool.or_eq_true_iff.1 hc with hc | hc <;> rw [beq_iff_eq.1 hc] <;> decide
  unfold readApplication?
  rw [spanIdentifier?_squeeze]
  rcases spanIdentifier? cs with _ | ⟨gate, rest⟩
  · rfl
  · dsimp only [Option.map_some, Option.bind_some, bind]
    rw [Text.trimStart_squeeze]
    by_cases hopen : ∃ body, Text.trimStart rest = '(' :: body
    · obtain ⟨body, hbody⟩ := hopen
      rw [hbody, Text.squeeze_cons_of_visible (by decide)]
      change (splitAtLastClose? (squeeze body)).bind _ =
        ((splitAtLastClose? body).bind _).map Application.squeezed
      rw [splitAtLastClose?_squeeze]
      rcases splitAtLastClose? body with _ | ⟨params, operands⟩
      · rfl
      · dsimp only [Option.map_some, Option.bind_some]
        rw [Text.any_squeeze hbracket]
        split_ifs <;> rfl
    · have hany := Text.any_squeeze hbracket (Text.trimStart rest)
      split
      · next body heq =>
        refine absurd ?_ hopen
        rcases htrim : Text.trimStart rest with _ | ⟨c, behind⟩
        · rw [htrim] at heq
          cases heq
        · rw [htrim, Text.squeeze_cons_of_visible (Text.isBlank_of_trimStart htrim)] at heq
          exact ⟨behind, by rw [(List.cons.inj heq).1]⟩
      · rw [hany]
        split_ifs with hoperands
        · split
          · next body heq => exact absurd ⟨body, heq⟩ hopen
          · rw [if_pos hoperands]
            rfl
        · split
          · next body heq => exact absurd ⟨body, heq⟩ hopen
          · rw [if_neg hoperands]
            rfl

/-! ### Statements -/

/-- An operand names the same unit. -/
lemma resolve_squeeze (c : Circuit) (line line' : Nat) (kind : UnitKind) (operand : List Char) :
    SameUpToLayout (resolve c line kind (squeeze operand)) (resolve c line' kind operand) := by
  unfold resolve
  dsimp only
  rw [Text.trim_squeeze, readIndexed?_squeeze]
  rcases readIndexed? (Text.trim operand) with _ | ⟨name, index?⟩
  · exact .fault (congrArg StatementFault.malformedArgument (squeezeQuote_ofList_squeeze _))
  · dsimp only
    rcases findRegister? (c.registers kind) (String.ofList name) with _ | register
    · exact .fault rfl
    · cases index? with
      | none => exact .error (.unsupported rfl)
      | some digits =>
        dsimp only
        rcases Number.readNat? Number.word32 digits with _ | index
        · exact .fault (congrArg StatementFault.unreadableIndex (squeezeQuote_ofList_squeeze _))
        · dsimp only
          split_ifs
          · exact .ok _
          · exact .fault rfl

/-- Operands name the same qubits. -/
lemma resolveQubits_squeeze (c : Circuit) (line line' : Nat) (operands : List Char) :
    SameUpToLayout (resolveQubits c line (squeeze operands)) (resolveQubits c line' operands) := by
  unfold resolveQubits
  dsimp only
  rw [Text.trim_squeeze, Text.isEmpty_squeeze, Text.splitOnChar_squeeze (by decide)]
  split_ifs
  · exact .fault rfl
  · exact .mapM fun operand _ => resolve_squeeze c line line' .qubit operand

/-- A declaration makes the same register. -/
lemma addRegister_squeeze (c : Circuit) (line line' : Nat) (kind : UnitKind)
    {keyword text : List Char}
    (hdrop : (squeeze text).drop keyword.length = squeeze (text.drop keyword.length)) :
    SameUpToLayout (addRegister c line kind keyword (squeeze text))
      (addRegister c line' kind keyword text) := by
  unfold addRegister
  rw [hdrop, readDeclaration?_squeeze]
  rcases readDeclaration? (text.drop keyword.length) with _ | ⟨name, digits⟩
  · exact .fault (congrArg StatementFault.malformedRegister (squeezeQuote_ofList_squeeze _))
  · dsimp only
    rcases Number.readNat? Number.word32 digits with _ | size
    · exact .fault rfl
    · dsimp only
      split_ifs
      · exact .fault rfl
      · exact .fault rfl
      · exact .ok _

/-- A parameter has the same value. -/
lemma readParam_squeeze (line line' : Nat) (text : List Char) :
    SameUpToLayout (readParam line (squeeze text)) (readParam line' text) := by
  unfold readParam
  rw [Expression.evaluate_squeeze, Text.trim_squeeze]
  rcases evaluate text with cause | radians
  · exact .fault (congrArg (StatementFault.badParameter · cause) (squeezeQuote_ofList_squeeze _))
  · exact .ok _

/-- Parameters have the same values. -/
lemma readParams_squeeze (line line' : Nat) (params : Option (List Char)) :
    SameUpToLayout (readParams line (params.map squeeze)) (readParams line' params) := by
  cases params with
  | none => exact .ok _
  | some list =>
    rw [Option.map_some, readParams, readParams, Text.trim_squeeze, Text.isEmpty_squeeze,
      Text.splitOnChar_squeeze (by decide)]
    split_ifs
    · exact .ok _
    · exact .mapM fun param _ => readParam_squeeze line line' param

/-- A gate application is the same command. -/
lemma readGate_squeeze (c : Circuit) (line line' : Nat) (text : List Char) :
    SameUpToLayout (readGate c line (squeeze text)) (readGate c line' text) := by
  unfold readGate
  rw [readApplication?_squeeze]
  rcases readApplication? text with _ | application
  · exact .fault (congrArg StatementFault.malformedStatement (squeezeQuote_ofList_squeeze _))
  · dsimp only [Option.map_some, Application.squeezed]
    rcases Gate.byName? (String.ofList application.gate) with _ | gate
    · exact .error (.unknownGate _)
    · refine (readParams_squeeze line line' application.params).bind fun params => ?_
      split_ifs
      · exact .fault rfl
      · refine (resolveQubits_squeeze c line line' application.operands).bind fun args => ?_
        split_ifs
        · exact .fault rfl
        · rcases firstRepeated? [] args with _ | qubit
          · exact .ok _
          · exact .fault rfl

/-- A measurement is the same command. -/
lemma readMeasure_squeeze (c : Circuit) (line line' : Nat) (operands : List Char) :
    SameUpToLayout (readMeasure c line (squeeze operands)) (readMeasure c line' operands) := by
  have hvisible : ∀ c ∈ ['-', '>'], Text.isBlank c = false :=
    List.forall_mem_cons.2 ⟨by decide, List.forall_mem_singleton.2 (by decide)⟩
  unfold readMeasure
  rw [Text.trim_squeeze, Text.splitAt?_squeeze hvisible (List.cons_ne_nil _ _)]
  rcases Text.splitAt? ['-', '>'] (Text.trim operands) with _ | ⟨qubitText, bitText⟩
  · exact .fault rfl
  · refine (resolve_squeeze c line line' .qubit qubitText).bind fun qubit => ?_
    refine (resolve_squeeze c line line' .bit bitText).bind fun bit => ?_
    exact .ok _

/-- A version header passes the same check. -/
lemma checkHeader_squeeze (line line' position : Nat) (version : List Char) :
    SameUpToLayout (checkHeader line position (squeeze version))
      (checkHeader line' position version) := by
  have hhead : (squeeze (Text.trim version)).head? = some '2' ↔
      (Text.trim version).head? = some '2' := by
    rcases Text.trim version with _ | ⟨c, cs⟩
    · rfl
    · rcases hc : Text.isBlank c with _ | _
      · rw [Text.squeeze_cons_of_visible hc]
        rfl
      · rw [Text.squeeze_cons_of_isBlank hc, List.head?_cons, List.head?_cons, Option.some.injEq,
          Option.some.injEq]
        refine ⟨fun h => absurd h (by decide), ?_⟩
        rintro rfl
        exact absurd hc (by decide)
  unfold checkHeader
  dsimp only
  rw [Text.trim_squeeze]
  by_cases hposition : position ≠ 0
  · rw [if_pos hposition, if_pos hposition]
    exact .fault rfl
  · rw [if_neg hposition, if_neg hposition]
    by_cases htwo : (Text.trim version).head? = some '2'
    · rw [if_pos htwo, if_pos (hhead.2 htwo)]
      exact .ok _
    · rw [if_neg htwo, if_neg (mt hhead.1 htwo)]
      exact .error (.unsupported (squeezeQuote_append_squeeze "OPENQASM " (Text.trim version)))

/-- The characters of words are no blanks. -/
lemma isBlank_of_isWordChar {c : Char} (h : isWordChar c = true) : Text.isBlank c = false := by
  unfold isWordChar at h
  rw [Bool.not_eq_true', Bool.or_eq_false_iff, Bool.or_eq_false_iff] at h
  exact h.1.1

/-- The first word is not squeezed. -/
lemma firstWord_squeeze (cs : List Char) : firstWord (squeeze cs) = firstWord cs :=
  Text.takeWhile_squeeze (fun _ => isBlank_of_isWordChar) cs

/-- What stands behind the first word is squeezed. -/
lemma drop_firstWord_squeeze (cs : List Char) :
    (squeeze cs).drop (firstWord cs).length = squeeze (cs.drop (firstWord cs).length) := by
  have hdrop : ∀ ds : List Char, ds.drop (firstWord ds).length = ds.dropWhile isWordChar := by
    intro ds
    have hsplit : firstWord ds ++ ds.dropWhile isWordChar = ds := List.takeWhile_append_dropWhile
    have hbehind := congrArg (List.drop (firstWord ds).length) hsplit
    rw [List.drop_left] at hbehind
    exact hbehind.symm
  have hsqueeze := hdrop (squeeze cs)
  rw [firstWord_squeeze, Text.dropWhile_squeeze fun _ => isBlank_of_isWordChar, ← hdrop] at hsqueeze
  exact hsqueeze

/-- A statement has the same effect whatever its layout. -/
lemma addStatement_squeeze (c : Circuit) (position line line' : Nat) (text : List Char)
    (terminated : Bool) :
    SameUpToLayout (addStatement c position ⟨line, squeeze text, terminated⟩)
      (addStatement c position ⟨line', text, terminated⟩) := by
  unfold addStatement
  dsimp only
  rw [firstWord_squeeze, drop_firstWord_squeeze]
  have hregister := fun kind =>
    addRegister_squeeze c line line' kind (drop_firstWord_squeeze text)
  generalize String.ofList (firstWord text) = keyword
  by_cases hclosed : (!terminated && !isUnsupportedKeyword keyword) = true
  · rw [if_pos hclosed, if_pos hclosed]
    exact .fault (congrArg StatementFault.missingSemicolon (squeezeQuote_ofList_squeeze _))
  · rw [if_neg hclosed, if_neg hclosed]
    split
    · exact (checkHeader_squeeze line line' position _).map _
    · exact .ok _
    · exact hregister .qubit
    · exact hregister .bit
    · exact (readMeasure_squeeze c line line' _).map _
    · exact (resolveQubits_squeeze c line line' _).map _
    · refine (resolveQubits_squeeze c line line' _).bind fun qubits => ?_
      split_ifs
      · exact .fault rfl
      · exact .ok _
    · split
      · exact .error (.unsupported rfl)
      · exact (readGate_squeeze c line line' text).map _

/-- A statement without its line and with squeezed text. -/
def Statement.squeezed (s : Statement) : Statement :=
  ⟨0, squeeze s.text, s.terminated⟩

/-- Statements have the same effect whatever their layout. -/
lemma addStatements_squeezed (c : Circuit) (position : Nat) (ss : List Statement) :
    SameUpToLayout (addStatements c position (ss.map Statement.squeezed))
      (addStatements c position ss) := by
  induction ss generalizing c position with
  | nil => exact .ok _
  | cons s ss ih =>
    rw [List.map_cons, addStatements, addStatements]
    exact (addStatement_squeeze c position 0 s.line s.text s.terminated).bind
      fun extended => ih extended (position + 1)

end CircuitBench.Qasm
