import CircuitBench.Proofs.Circuit.Qasm.Operands

/-!
# What the reader makes is well formed

Every statement either leaves the circuit as it is, declares one register under checks, or adds one
command on units that are declared by then (`step_of_addStatement`). Well-formed circuits stay well
formed under each such `Step`, so whatever is read is well formed, and can be written again
(`wellFormed_of_readProgram`).
-/

namespace CircuitBench.Qasm

/-! ### Steps -/

/-- What a statement that is accepted can do to a circuit. -/
inductive Step (c : Circuit) : Circuit → Prop
  /-- Headers change nothing. -/
  | same : Step c c
  /-- A declaration adds a register under a new identifier within the limit of its kind. -/
  | declare {kind : UnitKind} {r : Register} (hidentifier : isIdentifier r.name.toList = true)
    (hnew : r.name ∉ (c.qregs ++ c.cregs).map Register.name)
    (hle : unitCount ((c.declare r kind).registers kind) ≤ unitLimit) : Step c (c.declare r kind)
  /-- Other statements add a command on declared units. -/
  | push {command : Command} (hcommand : c.Expressible command) : Step c (c.push command)

/-- Steps keep the phase. -/
lemma Step.phase_eq {c d : Circuit} (h : Step c d) : d.phase = c.phase := by
  cases h with
  | same => rfl
  | @declare kind r => cases kind <;> rfl
  | push => rfl

/-- A step keeps all declared units. -/
lemma Step.units_subset {c d : Circuit} (h : Step c d) (kind : UnitKind) :
    ∀ w ∈ c.units kind, w ∈ d.units kind := by
  intro w hw
  cases h with
  | same => exact hw
  | @declare other r =>
    obtain ⟨s, hs, hholds⟩ := mem_flatMap_wires.1 hw
    refine mem_flatMap_wires.2 ⟨s, ?_, hholds⟩
    cases kind <;> cases other <;> first | exact hs | exact List.mem_append_left _ hs
  | push => exact hw

/-- Steps keep circuits well formed. -/
lemma Step.wellFormed {c d : Circuit} (h : Step c d) (hc : c.WellFormed) : d.WellFormed := by
  have hcommands : ∀ command ∈ c.commands, d.Expressible command := fun command hcommand =>
    (hc.commands command hcommand).mono (h.units_subset .qubit) (h.units_subset .bit)
  cases h with
  | same => exact hc
  | @declare kind r hidentifier hnew hle =>
    have hperm : ((c.declare r kind).qregs ++ (c.declare r kind).cregs).Perm
        (r :: (c.qregs ++ c.cregs)) := by
      cases kind with
      | qubit =>
        simp only [Circuit.declare, List.append_assoc, List.singleton_append]
        exact List.perm_middle
      | bit =>
        simp only [Circuit.declare, ← List.append_assoc]
        exact List.perm_append_singleton r (c.qregs ++ c.cregs)
    refine ⟨fun s hs => ?_, ?_, ?_, ?_, ?_⟩
    · rcases List.mem_cons.1 (hperm.mem_iff.1 hs) with rfl | hs
      · exact hidentifier
      · exact hc.identifiers s hs
    · exact (hperm.map Register.name).nodup_iff.2 (List.nodup_cons.2 ⟨hnew, hc.distinct⟩)
    · cases kind with
      | qubit => exact hle
      | bit => exact hc.qubits_le
    · cases kind with
      | qubit => exact hc.bits_le
      | bit => exact hle
    · have hsame : (c.declare r kind).commands = c.commands := by cases kind <;> rfl
      rw [hsame]
      exact hcommands
  | push hcommand => exact hc.push hcommand

/-! ### Patterns -/

/-- What is found in front of a text as an identifier is one. -/
lemma isIdentifier_of_spanIdentifier? {cs name rest : List Char}
    (h : spanIdentifier? cs = some (name, rest)) : isIdentifier name = true := by
  cases cs with
  | nil => cases h
  | cons c cs =>
    rw [spanIdentifier?] at h
    split_ifs at h with hc
    cases h
    rw [isIdentifier, hc, List.all_takeWhile]
    rfl

/-- The name in a declaration is an identifier. -/
lemma isIdentifier_of_readDeclaration? {cs name digits : List Char}
    (h : readDeclaration? cs = some (name, digits)) : isIdentifier name = true := by
  cases cs with
  | nil => cases h
  | cons c cs =>
    rw [readDeclaration?] at h
    split_ifs at h
    rcases hspan : spanIdentifier? (Text.trimStart cs) with _ | ⟨found, rest⟩
    · rw [hspan] at h
      cases h
    · rw [hspan] at h
      rcases hindex : readIndex? (Text.trimStart rest) with _ | found'
      · simp [hindex] at h
      · simp only [Option.bind_eq_bind, Option.bind_some, hindex, Option.pure_def,
          Option.some.injEq, Prod.mk.injEq] at h
        rw [← h.1]
        exact isIdentifier_of_spanIdentifier? hspan

/-! ### Operands -/

/-- A unit that is found is declared. -/
lemma mem_units_of_resolve {c : Circuit} {line : Nat} {kind : UnitKind} {operand : List Char}
    {w : Wire} (h : resolve c line kind operand = .ok w) : w ∈ c.units kind := by
  unfold resolve at h
  dsimp only at h
  split at h
  · cases h
  · next nameChars index? _ =>
    split at h
    · cases h
    · next r hr =>
      split at h
      · cases h
      · split at h
        · cases h
        · split_ifs at h with hindex
          · cases h
            obtain ⟨hmem, hname⟩ := of_findRegister?_eq_some hr
            exact mem_flatMap_wires.2 ⟨r, hmem, hname, hindex⟩
          · cases h

/-- Operands that are found are qubits, and there is one at least. -/
lemma of_resolveQubits_eq_ok {c : Circuit} {line : Nat} {operands : List Char} {ws : List Wire}
    (h : resolveQubits c line operands = .ok ws) : ws ≠ [] ∧ ∀ w ∈ ws, w ∈ c.qubits := by
  unfold resolveQubits at h
  dsimp only at h
  split_ifs at h
  · cases h
  · obtain ⟨hlength, hmem⟩ := of_mapM_eq_ok h
    constructor
    · rintro rfl
      exact Text.splitOnChar_ne_nil ',' _ (List.length_eq_zero_iff.1 hlength.symm)
    · intro w hw
      obtain ⟨piece, -, hpiece⟩ := hmem w hw
      exact mem_units_of_resolve hpiece

/-! ### Statements -/

/-- A declaration that is accepted adds a register under a new identifier within the limit. -/
lemma of_addRegister_eq_ok {c d : Circuit} {line : Nat} {kind : UnitKind} {word text : List Char}
    (h : addRegister c line kind word text = .ok d) :
    ∃ r, isIdentifier r.name.toList = true ∧ r.name ∉ (c.qregs ++ c.cregs).map Register.name ∧
      unitCount ((c.declare r kind).registers kind) ≤ unitLimit ∧ d = c.declare r kind := by
  unfold addRegister at h
  split at h
  · cases h
  · next nameChars digits hread =>
    dsimp only at h
    split at h
    · cases h
    · split_ifs at h with hused hmany
      · cases h
      · cases h
      · cases h
        rw [Bool.or_eq_true, not_or] at hused
        refine ⟨_, ?_, ?_, Nat.not_lt.1 hmany, rfl⟩
        · rw [String.toList_ofList]
          exact isIdentifier_of_readDeclaration? hread
        · rw [List.map_append, List.mem_append, not_or]
          exact ⟨fun hq => hused.1 (findRegister?_isSome_iff.2 hq),
            fun hc => hused.2 (findRegister?_isSome_iff.2 hc)⟩

/-- A declaration that is accepted makes a step. -/
lemma step_of_addRegister {c d : Circuit} {line : Nat} {kind : UnitKind} {word text : List Char}
    (h : addRegister c line kind word text = .ok d) : Step c d := by
  obtain ⟨r, hidentifier, hnew, hle, rfl⟩ := of_addRegister_eq_ok h
  exact .declare hidentifier hnew hle

/-- A measurement that is accepted reads a declared qubit into a declared bit. -/
lemma expressible_of_readMeasure {c : Circuit} {line : Nat} {operands : List Char}
    {command : Command} (h : readMeasure c line operands = .ok command) :
    c.Expressible command := by
  unfold readMeasure at h
  split at h
  · cases h
  · next qubitText bitText _ =>
    obtain ⟨qubit, hqubit, h⟩ := of_bind_eq_ok h
    obtain ⟨bit, hbit, h⟩ := of_bind_eq_ok h
    cases h
    exact .measure (mem_units_of_resolve hqubit) (mem_units_of_resolve hbit)

/-- A gate that is accepted has its numbers of parameters and of distinct qubits. It is read under
any of its names and written under the first of them, which agrees about these numbers. -/
lemma expressible_of_readGate {c : Circuit} {line : Nat} {text : List Char} {command : Command}
    (h : readGate c line text = .ok command) : c.Expressible command := by
  unfold readGate at h
  split at h
  · cases h
  · next application _ =>
    dsimp only at h
    split at h
    · cases h
    · next gate hgate =>
      obtain ⟨params, -, h⟩ := of_bind_eq_ok h
      split at h
      · cases h
      · next hcount =>
        obtain ⟨args, hargs, h⟩ := of_bind_eq_ok h
        split at h
        · cases h
        · next harity =>
          split at h
          · cases h
          · next hrepeated =>
            cases h
            obtain ⟨first, hfirst, hsameParams, hsameQubits⟩ :=
              Gate.byOp?_op gate (Gate.mem_of_byName?_eq_some hgate)
            rw [not_not] at hcount harity
            exact .gate hfirst (hcount.trans hsameParams.symm) (harity.trans hsameQubits.symm)
              (firstRepeated?_eq_none_iff.1 hrepeated).1 (of_resolveQubits_eq_ok hargs).2

/-- A statement that is accepted makes a step. -/
lemma step_of_addStatement {c d : Circuit} {position : Nat} {s : Statement}
    (h : addStatement c position s = .ok d) : Step c d := by
  unfold addStatement at h
  dsimp only at h
  split at h
  · cases h
  · split at h
    · obtain ⟨-, -, rfl⟩ := of_map_eq_ok h
      exact .same
    · cases h
      exact .same
    · exact step_of_addRegister h
    · exact step_of_addRegister h
    · obtain ⟨command, hread, rfl⟩ := of_map_eq_ok h
      exact .push (expressible_of_readMeasure hread)
    · obtain ⟨qubits, hread, rfl⟩ := of_map_eq_ok h
      obtain ⟨hne, hqubits⟩ := of_resolveQubits_eq_ok hread
      exact .push (.barrier hne hqubits)
    · obtain ⟨qubits, hread, h⟩ := of_bind_eq_ok h
      split at h
      · cases h
      · next hone =>
        cases h
        rw [not_not, List.length_eq_one_iff] at hone
        obtain ⟨qubit, rfl⟩ := hone
        exact .push (.reset ((of_resolveQubits_eq_ok hread).2 qubit List.mem_cons_self))
    · split at h
      · cases h
      · obtain ⟨command, hread, rfl⟩ := of_map_eq_ok h
        exact .push (expressible_of_readGate hread)

/-! ### Programs -/

/-- Statements that are accepted keep a circuit well formed, and its phase. -/
lemma wellFormed_of_addStatements {c d : Circuit} {position : Nat} {ss : List Statement}
    (hc : c.WellFormed) (h : addStatements c position ss = .ok d) :
    d.WellFormed ∧ d.phase = c.phase := by
  induction ss generalizing c position with
  | nil =>
    cases h
    exact ⟨hc, rfl⟩
  | cons s ss ih =>
    obtain ⟨extended, hs, h⟩ := of_bind_eq_ok h
    have hstep := step_of_addStatement hs
    obtain ⟨hd, hphase⟩ := ih (hstep.wellFormed hc) h
    exact ⟨hd, hphase.trans hstep.phase_eq⟩

/-- Every circuit that is read is well formed, has no phase, and can be written again. -/
theorem wellFormed_of_readProgram {source : List Char} {c : Circuit}
    (h : readProgram source = .ok c) :
    c.WellFormed ∧ c.phase = 0 ∧ ∃ text, programText c = .ok text := by
  obtain ⟨hc, hphase⟩ := wellFormed_of_addStatements Circuit.wellFormed_empty h
  exact ⟨hc, hphase, _, programText_eq hc⟩

/-- A program that names gates by their second names and puts several statements on a line. -/
def aliasProgram : List Char :=
  "OPENQASM 2.0;\nqreg q[2]; creg c[1];\nCX q[0], q[1]; p(pi) q[1];\nmeasure q[0] -> c[0];".toList

/-- The circuit of the program with second names. -/
def aliasCircuit : Circuit where
  qregs := [⟨"q", 2⟩]
  cregs := [⟨"c", 1⟩]
  commands := [
    ⟨"CX", [], [⟨"q", 0⟩, ⟨"q", 1⟩]⟩,
    ⟨"U1", [Number.pi / Number.pi], [⟨"q", 1⟩]⟩,
    ⟨measureOp, [], [⟨"q", 0⟩, ⟨"c", 0⟩]⟩]
  phase := 0

deriving instance DecidableEq for Command
deriving instance DecidableEq for Circuit

/-- Results are told apart by what they hold. -/
instance decEqResult {ε α : Type} [DecidableEq ε] [DecidableEq α] : DecidableEq (Except ε α)
  | .ok a, .ok b => decidable_of_iff (a = b) (by simp)
  | .error e, .error f => decidable_of_iff (e = f) (by simp)
  | .ok _, .error _ => isFalse (by simp)
  | .error _, .ok _ => isFalse (by simp)

/-- The circuit of the program with second names is well formed. -/
theorem wellFormed_aliasCircuit : readProgram aliasProgram = .ok aliasCircuit ∧
    aliasCircuit.WellFormed ∧ aliasCircuit.phase = 0 ∧
      ∃ text, programText aliasCircuit = .ok text := by
  have hread : readProgram aliasProgram = .ok aliasCircuit := by decide +kernel
  exact ⟨hread, wellFormed_of_readProgram hread⟩

end CircuitBench.Qasm
