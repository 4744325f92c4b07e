import CircuitBench.Proofs.Circuit.Tket.Registers
import CircuitBench.Proofs.Circuit.Tket.Wiring

/-!
# Declared operands

The operands of a command have to be declared. An operand is looked up by the name of its register,
first among the registers of qubits and only then among those of bits. So a register of qubits hides
the register of bits with the same name (`Circuit.IsHidden`): a bit that the document lists is
refused as undeclared if it comes after all qubits of its name. Apart from hidden bits, the declared
operands are the units of the circuit.

`operandCheck_of_read` says so of every document that is accepted but for its operands, and
`hiddenBitDocument_refused` is a document that is refused for a bit which it lists.
-/

namespace CircuitBench

/-- A bit is hidden when there are qubits under the name of its register, but not as many. -/
def Circuit.IsHidden (c : Circuit) (w : Wire) : Prop :=
  w ∈ c.bits ∧ w ∉ c.qubits ∧ ∃ q ∈ c.qubits, q.register = w.register

end CircuitBench

namespace CircuitBench.Tket

/-- In a circuit whose registers stand for lists of units, the declared operands are the units that
are not hidden. -/
lemma isDeclared_iff_not_isHidden {qubits bits : List Place} {c : Circuit}
    (hqregs : Spans qubits c.qregs) (hcregs : Spans bits c.cregs) (w : Wire) :
    isDeclared c w = true ↔ (w ∈ c.qubits ∨ w ∈ c.bits) ∧ ¬ c.IsHidden w := by
  have hnames : w.register ∈ c.qregs.map Register.name ↔ ∃ q ∈ c.qubits, q.register = w.register :=
    hqregs.mem_names
  rw [isDeclared_iff hqregs.nodup hcregs.nodup, hnames, Circuit.IsHidden]
  by_cases hqubit : w ∈ c.qubits
  · simp [hqubit]
  · rw [or_iff_right hqubit, or_iff_right hqubit]
    constructor
    · rintro ⟨hbit, hname⟩
      exact ⟨hbit, fun hhidden => hname hhidden.2.2⟩
    · rintro ⟨hbit, hhidden⟩
      exact ⟨hbit, fun hname => hhidden ⟨hbit, hqubit, hname⟩⟩

/-! ### Instructions and documents -/

/-- Serial forms with one index each are those of a list of units. -/
lemma exists_map_ofWire_iff {places : List Place} {P : Wire → Prop} :
    (∃ ws : List Wire, places = ws.map Place.ofWire ∧ ∀ w ∈ ws, P w) ↔
      ∀ p ∈ places, ∃ w, p = Place.ofWire w ∧ P w := by
  constructor
  · rintro ⟨ws, rfl, h⟩ p hp
    obtain ⟨w, hw, rfl⟩ := List.mem_map.1 hp
    exact ⟨w, rfl, h w hw⟩
  · intro h
    induction places with
    | nil => exact ⟨[], rfl, nofun⟩
    | cons p places ih =>
      obtain ⟨⟨w, rfl, hw⟩, hplaces⟩ := List.forall_mem_cons.1 h
      obtain ⟨ws, rfl, hws⟩ := ih hplaces
      exact ⟨w :: ws, rfl, List.forall_mem_cons.2 ⟨hw, hws⟩⟩

/-- An instruction with readable parameters is accepted when its operands have one index each and
pass the check. -/
lemma exists_toCommand_eq_ok_iff {c : Circuit} {i : Instruction} {params : List Float}
    (hparams : (i.op.params.getD []).mapM readAngle = .ok params) :
    (∃ command, i.toCommand c = .ok command) ↔
      ∀ p ∈ i.args, ∃ w, p = Place.ofWire w ∧ checkDeclared c i.op.type w = .ok () := by
  rw [← exists_map_ofWire_iff]
  constructor
  · rintro ⟨command, h⟩
    obtain ⟨-, args, -, hargs, hdeclared, -⟩ := toCommand_eq_ok_iff.1 h
    exact ⟨args, hargs, fun w hw => checkDeclared_eq_ok_iff.2 (hdeclared w hw)⟩
  · rintro ⟨args, hargs, hcheck⟩
    exact ⟨_, toCommand_eq_ok_iff.2 ⟨params, args, hparams, hargs,
      fun w hw => checkDeclared_eq_ok_iff.1 (hcheck w hw), rfl⟩⟩

/-- A text is accepted when all instructions of its document are, once everything else is. -/
lemma exists_readCircuit_eq_ok_iff {cs : List Char} {d : Document} {c : Circuit}
    (hread : Document.read cs = .ok d) (hphase : readAngle d.phase = .ok c.phase)
    (hqubits : registersOf d.qubits = .ok c.qregs) (hbits : registersOf d.bits = .ok c.cregs) :
    (∃ commands, readCircuit cs = .ok { c with commands }) ↔
      ∀ i ∈ d.commands, ∃ command, i.toCommand (bare c) = .ok command := by
  rw [readCircuit_eq_of_read hread, toCircuit_eq hphase hqubits hbits, ← exists_mapM_eq_ok_iff]
  cases d.commands.mapM (Instruction.toCommand (bare c)) with
  | error e =>
    constructor
    · rintro ⟨commands, h⟩
      cases h
    · rintro ⟨commands, h⟩
      cases h
  | ok commands => exact iff_of_true ⟨commands, rfl⟩ ⟨commands, rfl⟩

/-! ### The operands of a document -/

/-- What becomes of the operands of a document, for the circuit that its units stand for and the
outcome of reading it. -/
structure Document.OperandCheck (d : Document) (c : Circuit)
    (outcome : Except CircuitError Circuit) : Prop where
  /-- Under each name the circuit has the qubits up to the last one listed. -/
  mem_qubits : ∀ w, w ∈ c.qubits ↔
    ∃ u, Place.ofWire u ∈ d.qubits ∧ u.register = w.register ∧ w.index ≤ u.index
  /-- Under each name the circuit has the bits up to the last one listed. -/
  mem_bits : ∀ w, w ∈ c.bits ↔
    ∃ u, Place.ofWire u ∈ d.bits ∧ u.register = w.register ∧ w.index ≤ u.index
  /-- The units of the circuit pass the check unless they are hidden. -/
  passes_iff : ∀ op w, checkDeclared c op w = .ok () ↔
    (w ∈ c.qubits ∨ w ∈ c.bits) ∧ ¬ c.IsHidden w
  /-- The check accepts the units of the circuit exactly when none is hidden. -/
  exact_iff : (∀ op w, checkDeclared c op w = .ok () ↔ w ∈ c.qubits ∨ w ∈ c.bits) ↔
    ∀ w, ¬ c.IsHidden w
  /-- The document is accepted exactly when every operand has one index and passes the check. -/
  accepted_iff : (∃ commands, outcome = .ok { c with commands }) ↔
    ∀ i ∈ d.commands, ∀ p ∈ i.args, ∃ w, p = Place.ofWire w ∧
      checkDeclared c i.op.type w = .ok ()
  /-- A document that uses the units that it lists is accepted exactly when it uses no hidden
  one. -/
  accepted_of_listed : (∀ i ∈ d.commands, ∀ p ∈ i.args, p ∈ d.qubits ∨ p ∈ d.bits) →
    ((∃ commands, outcome = .ok { c with commands }) ↔
      ∀ i ∈ d.commands, ∀ w, Place.ofWire w ∈ i.args → ¬ c.IsHidden w)

/-- A document whose shape, phase, parameters and units are accepted may use the units of its
circuit as operands, except for hidden bits. -/
theorem operandCheck_of_read {cs : List Char} {d : Document} {c : Circuit}
    (hread : Document.read cs = .ok d) (hphase : readAngle d.phase = .ok c.phase)
    (hqubits : registersOf d.qubits = .ok c.qregs) (hbits : registersOf d.bits = .ok c.cregs)
    (hparams : ∀ i ∈ d.commands, ∃ params, (i.op.params.getD []).mapM readAngle = .ok params) :
    d.OperandCheck c (readCircuit cs) := by
  have hqregs := spans_of_registersOf hqubits
  have hcregs := spans_of_registersOf hbits
  have hpasses : ∀ op w, checkDeclared c op w = .ok () ↔
      (w ∈ c.qubits ∨ w ∈ c.bits) ∧ ¬ c.IsHidden w := fun op w =>
    checkDeclared_eq_ok_iff.trans (isDeclared_iff_not_isHidden hqregs hcregs w)
  have haccepted : (∃ commands, readCircuit cs = .ok { c with commands }) ↔
      ∀ i ∈ d.commands, ∀ p ∈ i.args, ∃ w, p = Place.ofWire w ∧
        checkDeclared c i.op.type w = .ok () := by
    rw [exists_readCircuit_eq_ok_iff hread hphase hqubits hbits]
    refine forall₂_congr fun i hi => ?_
    obtain ⟨params, hi⟩ := hparams i hi
    exact exists_toCommand_eq_ok_iff hi
  constructor
  case mem_qubits => exact hqregs.mem_wires
  case mem_bits => exact hcregs.mem_wires
  case passes_iff => exact hpasses
  case exact_iff =>
    constructor
    · intro h w hhidden
      exact ((hpasses "" w).1 ((h "" w).2 (.inr hhidden.1))).2 hhidden
    · intro h op w
      rw [hpasses, and_iff_left (h w)]
  case accepted_iff => exact haccepted
  case accepted_of_listed =>
    intro hlisted
    rw [haccepted]
    constructor
    · intro h i hi w hw
      obtain ⟨v, hv, hcheck⟩ := h i hi _ hw
      rw [ofWire_injective hv]
      exact ((hpasses _ v).1 hcheck).2
    · intro h i hi p hp
      -- a place that is listed has one index, and is a unit of the circuit
      rcases hlisted i hi p hp with hmem | hmem
      · obtain ⟨w, rfl⟩ := hqregs.single p hmem
        exact ⟨w, rfl, (hpasses _ w).2 ⟨.inl (hqregs.mem_of_listed hmem), h i hi w hp⟩⟩
      · obtain ⟨w, rfl⟩ := hcregs.single p hmem
        exact ⟨w, rfl, (hpasses _ w).2 ⟨.inr (hcregs.mem_of_listed hmem), h i hi w hp⟩⟩

/-- A document with one qubit and two bits under the same name, which measures the qubit into the
second bit. -/
def hiddenBitDocument : Document where
  bits := [⟨"q", [0]⟩, ⟨"q", [1]⟩]
  commands := [⟨⟨"Measure", none, none⟩, [⟨"q", [0]⟩, ⟨"q", [1]⟩]⟩]
  createdQubits := []
  discardedQubits := []
  implicitPermutation := []
  phase := "0.0"
  qubits := [⟨"q", [0]⟩]

/-- The registers that the units of the document with a hidden bit stand for. -/
def hiddenBitCircuit : Circuit :=
  ⟨[⟨"q", 1⟩], [⟨"q", 2⟩], [], 0⟩

/-- The document with a hidden bit is accepted but for its operands. -/
theorem operandCheck_of_read_hiddenBitDocument :
    (Document.read hiddenBitDocument.text = .ok hiddenBitDocument ∧
      readAngle hiddenBitDocument.phase = .ok hiddenBitCircuit.phase ∧
      registersOf hiddenBitDocument.qubits = .ok hiddenBitCircuit.qregs ∧
      registersOf hiddenBitDocument.bits = .ok hiddenBitCircuit.cregs ∧
      ∀ i ∈ hiddenBitDocument.commands, ∃ params,
        (i.op.params.getD []).mapM readAngle = .ok params) ∧
    hiddenBitDocument.OperandCheck hiddenBitCircuit (readCircuit hiddenBitDocument.text) := by
  have hread : Document.read hiddenBitDocument.text = .ok hiddenBitDocument := by decide +kernel
  have hphase : readAngle hiddenBitDocument.phase = .ok hiddenBitCircuit.phase := by decide +kernel
  have hqubits : registersOf hiddenBitDocument.qubits = .ok hiddenBitCircuit.qregs := by
    decide +kernel
  have hbits : registersOf hiddenBitDocument.bits = .ok hiddenBitCircuit.cregs := by decide +kernel
  have hparams : ∀ i ∈ hiddenBitDocument.commands, ∃ params,
      (i.op.params.getD []).mapM readAngle = .ok params := by
    intro i hi
    rw [List.mem_singleton.1 hi]
    exact ⟨[], rfl⟩
  exact ⟨⟨hread, hphase, hqubits, hbits, hparams⟩,
    operandCheck_of_read hread hphase hqubits hbits hparams⟩

/-- The document with a hidden bit lists both operands of its only command, and the second is a bit
of its circuit; the document is refused because this bit is not declared. -/
theorem hiddenBitDocument_refused :
    Document.read hiddenBitDocument.text = .ok hiddenBitDocument ∧
      readAngle hiddenBitDocument.phase = .ok hiddenBitCircuit.phase ∧
      registersOf hiddenBitDocument.qubits = .ok hiddenBitCircuit.qregs ∧
      registersOf hiddenBitDocument.bits = .ok hiddenBitCircuit.cregs ∧
      (∀ i ∈ hiddenBitDocument.commands, ∀ p ∈ i.args,
        p ∈ hiddenBitDocument.qubits ∨ p ∈ hiddenBitDocument.bits) ∧
      ⟨"q", 1⟩ ∈ hiddenBitCircuit.bits ∧
      readCircuit hiddenBitDocument.text =
        .error (.invalid (.undeclaredUnit "Measure" ⟨"q", 1⟩)) := by
  decide +kernel

end CircuitBench.Tket
