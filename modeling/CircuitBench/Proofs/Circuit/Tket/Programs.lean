import CircuitBench.Proofs.Circuit.Qasm.Acceptance
import CircuitBench.Proofs.Circuit.Tket.Roundtrip

/-!
# Programs of documents

A document that is read makes a circuit within the limits whose operands are declared
(`of_readCircuit_eq_ok`). What the program reader forbids beyond that is checked neither here nor by
the program writer: a name shared by registers of either kind, and commands on units of the wrong
kind, on one unit twice, or on too few or too many units. Such a circuit is written as a program
that is refused; `readProgram_of_readCircuit` tells which programs of documents are accepted, and as
what.
-/

namespace CircuitBench.Tket

/-! ### What documents make -/

/-- The registers that are rebuilt from units stay within the limit. -/
lemma unitCount_le_of_registersOf {places : List Place} {registers : List Register}
    (h : registersOf places = .ok registers) : unitCount registers ≤ unitLimit := by
  unfold registersOf at h
  obtain ⟨found, -, h⟩ := of_bind_eq_ok h
  obtain ⟨⟨⟩, hcheck, h⟩ := of_bind_eq_ok h
  cases h
  unfold checkUnitCount at hcheck
  split_ifs at hcheck with hlimit
  exact Nat.not_lt.1 hlimit

/-- A command that is read acts on declared units. -/
lemma isDeclared_of_toCommand {c : Circuit} {i : Instruction} {command : Command}
    (h : i.toCommand c = .ok command) : ∀ w ∈ command.args, isDeclared c w = true := by
  obtain ⟨params, args, -, -, hdeclared, rfl⟩ := toCommand_eq_ok_iff.1 h
  exact hdeclared

/-- A circuit that is read from a document stays within the limits, and its operands
are declared. -/
lemma of_readCircuit_eq_ok {cs : List Char} {c : Circuit} (h : readCircuit cs = .ok c) :
    unitCount c.qregs ≤ unitLimit ∧ unitCount c.cregs ≤ unitLimit ∧
      ∀ command ∈ c.commands, ∀ w ∈ command.args, isDeclared c w = true := by
  unfold readCircuit at h
  split at h
  · cases h
  · next d _ =>
    split at h
    · cases h
    · next e hd =>
      cases h
      unfold Document.toCircuit at hd
      obtain ⟨phase, -, hd⟩ := of_bind_eq_ok hd
      obtain ⟨qregs, hqregs, hd⟩ := of_bind_eq_ok hd
      obtain ⟨cregs, hcregs, hd⟩ := of_bind_eq_ok hd
      obtain ⟨commands, hcommands, hd⟩ := of_bind_eq_ok hd
      cases hd
      refine ⟨unitCount_le_of_registersOf hqregs, unitCount_le_of_registersOf hcregs, ?_⟩
      intro command hcommand
      obtain ⟨i, -, hi⟩ := (of_mapM_eq_ok hcommands).2 command hcommand
      exact isDeclared_of_toCommand hi

/-! ### Their programs -/

/-- A circuit of a document that is written has legible units. -/
lemma legible_of_readCircuit {cs text : List Char} {c : Circuit} (hread : readCircuit cs = .ok c)
    (hfinite : c.FiniteAngles) (hwrite : Qasm.programText c = .ok text) : c.Legible := by
  obtain ⟨hqubits, hbits, hdeclared⟩ := of_readCircuit_eq_ok hread
  obtain ⟨hidentifiers, hwritable, -⟩ := Qasm.of_programText_eq_ok hwrite
  have hsize : ∀ r ∈ c.qregs ++ c.cregs, r.size ≤ unitLimit := by
    intro r hr
    rcases List.mem_append.1 hr with hr | hr
    · exact (size_le_unitCount hr).trans hqubits
    · exact (size_le_unitCount hr).trans hbits
  have hlimit : unitLimit < Number.word32 := by decide
  refine ⟨fun r hr => ⟨hidentifiers r hr, (hsize r hr).trans_lt hlimit⟩, hwritable, ?_, hfinite⟩
  intro command hcommand w hw
  obtain ⟨r, hr, hname, hindex⟩ := exists_register_of_isDeclared (hdeclared command hcommand w hw)
  refine ⟨?_, hindex.trans ((hsize r hr).trans_lt hlimit)⟩
  rw [← hname]
  exact hidentifiers r hr

/-- The program that is written for the circuit of a document is accepted exactly when no name
stands for two registers and every command is one that the program reader makes; it is then read as
the same registers with the same operations on the same units, and its angles are rounded. -/
theorem readProgram_of_readCircuit {cs text : List Char} {c : Circuit}
    (hread : readCircuit cs = .ok c) (hfinite : c.FiniteAngles)
    (hwrite : Qasm.programText c = .ok text) (d : Circuit) :
    Qasm.readProgram text = .ok d ↔ c.Acceptable ∧ d = c.stripped.reread := by
  obtain ⟨hqubits, hbits, -⟩ := of_readCircuit_eq_ok hread
  obtain ⟨-, -, rfl⟩ := Qasm.of_programText_eq_ok hwrite
  have hlegible := legible_of_readCircuit hread hfinite hwrite
  exact Qasm.readProgram_closedLines_iff hlegible hqubits hbits d

/-- A circuit with a barrier, a measurement and an angle. -/
def measuredCircuit : Circuit where
  qregs := [⟨"q", 2⟩]
  cregs := [⟨"c", 1⟩]
  commands := [
    ⟨"Rz", [0.5], [⟨"q", 1⟩]⟩,
    ⟨barrierOp, [0.25], [⟨"q", 0⟩, ⟨"q", 1⟩]⟩,
    ⟨measureOp, [], [⟨"q", 1⟩, ⟨"c", 0⟩]⟩]
  phase := 0.5

/-- The measured circuit is acceptable. -/
lemma acceptable_measuredCircuit : measuredCircuit.Acceptable := by
  refine ⟨by decide, fun command hcommand => ?_⟩
  simp only [measuredCircuit, List.mem_cons, List.not_mem_nil, or_false] at hcommand
  rcases hcommand with rfl | rfl | rfl
  · have hgate : Gate.byOp? "Rz" = some ⟨"rz", "Rz", 1, 1⟩ := by decide
    rw [Command.stripped_gate hgate]
    exact .gate hgate rfl rfl (by decide) (by decide)
  · exact .barrier (by decide) (by decide)
  · exact .measure (by decide) (by decide)

/-- The program of the measured circuit's document is accepted, and has no parameter on
the barrier. -/
theorem readProgram_of_readCircuit_measuredCircuit : ∃ text,
    (readCircuit (circuitText measuredCircuit) = .ok measuredCircuit ∧
      measuredCircuit.FiniteAngles ∧ Qasm.programText measuredCircuit = .ok text) ∧
    Qasm.readProgram text = .ok measuredCircuit.stripped.reread := by
  have hread : readCircuit (circuitText measuredCircuit) = .ok measuredCircuit := by decide +kernel
  have hfinite : measuredCircuit.FiniteAngles := by decide +kernel
  have hwrite : Qasm.programText measuredCircuit =
      .ok (Qasm.header ++ Qasm.closedLines (Qasm.bodies measuredCircuit)) := by decide +kernel
  exact ⟨_, ⟨hread, hfinite, hwrite⟩,
    (readProgram_of_readCircuit hread hfinite hwrite _).2 ⟨acceptable_measuredCircuit, rfl⟩⟩

/-- A measurement of one qubit into another. -/
def misdirectedCircuit : Circuit where
  qregs := [⟨"q", 2⟩]
  cregs := []
  commands := [⟨measureOp, [], [⟨"q", 0⟩, ⟨"q", 1⟩]⟩]
  phase := 0

/-- Circuits that the program writer has statements for and the program reader does not accept: a
qubit in the place of a bit, one qubit twice, a bit in the place of a qubit, two qubits instead of
one, no qubit at all, and two registers of one name. -/
def refusedCircuits : List Circuit := [
  misdirectedCircuit,
  ⟨[⟨"q", 1⟩], [], [⟨"CX", [], [⟨"q", 0⟩, ⟨"q", 0⟩]⟩], 0⟩,
  ⟨[⟨"q", 1⟩], [⟨"c", 1⟩], [⟨"X", [], [⟨"c", 0⟩]⟩], 0⟩,
  ⟨[⟨"q", 2⟩], [], [⟨resetOp, [], [⟨"q", 0⟩, ⟨"q", 1⟩]⟩], 0⟩,
  ⟨[⟨"q", 1⟩], [], [⟨barrierOp, [], []⟩], 0⟩,
  ⟨[⟨"q", 1⟩], [⟨"q", 1⟩], [], 0⟩]

/-- Documents of such circuits are read, and their programs are written and refused. -/
lemma refused_of_mem_refusedCircuits {c : Circuit} (hc : c ∈ refusedCircuits) :
    readCircuit (circuitText c) = .ok c ∧ c.FiniteAngles ∧
      ∃ text, Qasm.programText c = .ok text ∧ ¬ ∃ d, Qasm.readProgram text = .ok d := by
  have hread : ∀ c ∈ refusedCircuits, readCircuit (circuitText c) = .ok c ∧ c.FiniteAngles := by
    decide +kernel
  have hrefused : ∀ c ∈ refusedCircuits, (Qasm.programText c).isOk = true ∧
      ((Qasm.programText c).bind Qasm.readProgram).isOk = false := by
    decide +kernel
  obtain ⟨hdocument, hfinite⟩ := hread c hc
  obtain ⟨hwritten, hread⟩ := hrefused c hc
  refine ⟨hdocument, hfinite, ?_⟩
  rcases hwrite : Qasm.programText c with e | text
  · rw [hwrite] at hwritten
    cases hwritten
  · refine ⟨text, rfl, ?_⟩
    rintro ⟨d, hd⟩
    rw [hwrite, Except.bind, hd] at hread
    cases hread

/-- The document of a misdirected measurement is read, and its program is written and refused. -/
theorem misdirectedCircuit_refused :
    readCircuit (circuitText misdirectedCircuit) = .ok misdirectedCircuit ∧
      misdirectedCircuit.FiniteAngles ∧
      ∃ text, Qasm.programText misdirectedCircuit = .ok text ∧
        ¬ ∃ d, Qasm.readProgram text = .ok d :=
  refused_of_mem_refusedCircuits List.mem_cons_self

end CircuitBench.Tket
