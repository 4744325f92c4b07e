import CircuitBench.Proofs.Circuit.Qasm.Roundtrip
import CircuitBench.Proofs.Circuit.Qasm.Soundness
import CircuitBench.Proofs.Circuit.Tket.Roundtrip

/-!
# Programs on their way through documents

A program that is read can be written as a document, and from there as a program again. A document
lists units only, so a register without units leaves no trace in it (`Circuit.withoutEmpty`).
Everything else survives as long as all angles are finite (`survives_withoutEmpty`); an angle that
is not finite has a text that is no expression (`readCircuit_circuitText_of_infinite`).
-/

namespace CircuitBench

/-! ### Empty registers -/

/-- The registers that have units. -/
def inhabited (registers : List Register) : List Register :=
  registers.filter fun r => 0 < r.size

/-- A circuit without its empty registers. -/
def Circuit.withoutEmpty (c : Circuit) : Circuit :=
  { c with qregs := inhabited c.qregs, cregs := inhabited c.cregs }

/-- A register that has units is one of the registers. -/
lemma mem_inhabited {registers : List Register} {r : Register} :
    r ∈ inhabited registers ↔ r ∈ registers ∧ 0 < r.size := by
  simp [inhabited]

/-- The registers that have units stand in the same order. -/
lemma inhabited_sublist (registers : List Register) :
    (inhabited registers).Sublist registers :=
  List.filter_sublist

/-- Registers that all have units stay as they are. -/
lemma inhabited_eq_self {registers : List Register} (h : ∀ r ∈ registers, 0 < r.size) :
    inhabited registers = registers :=
  List.filter_eq_self.2 fun r hr => decide_eq_true (h r hr)

/-- A register without units adds none. -/
lemma flatMap_wires_inhabited (registers : List Register) :
    (inhabited registers).flatMap Register.wires = registers.flatMap Register.wires := by
  induction registers with
  | nil => rfl
  | cons r registers ih =>
    unfold inhabited at ih ⊢
    by_cases hr : 0 < r.size
    · rw [List.filter_cons_of_pos (by simpa using hr), List.flatMap_cons, List.flatMap_cons, ih]
    · have hwires : r.wires = [] := by simp [Register.wires, Nat.eq_zero_of_not_pos hr]
      rw [List.filter_cons_of_neg (by simpa using hr), List.flatMap_cons, hwires, ih,
        List.nil_append]

/-- The registers that have units have no more than all. -/
lemma unitCount_inhabited_le (registers : List Register) :
    unitCount (inhabited registers) ≤ unitCount registers := by
  rw [unitCount_eq_sum, unitCount_eq_sum]
  exact ((inhabited_sublist registers).map Register.size).sum_le_sum fun _ _ => Nat.zero_le _

namespace Circuit

/-- Without its empty registers a circuit has the same qubits. -/
@[simp] lemma qubits_withoutEmpty (c : Circuit) : c.withoutEmpty.qubits = c.qubits :=
  flatMap_wires_inhabited c.qregs

/-- Without its empty registers a circuit has the same bits. -/
@[simp] lemma bits_withoutEmpty (c : Circuit) : c.withoutEmpty.bits = c.bits :=
  flatMap_wires_inhabited c.cregs

/-- A circuit whose registers all have units stays as it is. -/
lemma withoutEmpty_eq_self {c : Circuit} (h : ∀ r ∈ c.qregs ++ c.cregs, 0 < r.size) :
    c.withoutEmpty = c := by
  unfold withoutEmpty
  rw [inhabited_eq_self fun r hr => h r (List.mem_append_left _ hr),
    inhabited_eq_self fun r hr => h r (List.mem_append_right _ hr)]

/-- A circuit stays well formed without its empty registers. -/
lemma WellFormed.withoutEmpty {c : Circuit} (h : c.WellFormed) : c.withoutEmpty.WellFormed := by
  have hsublist : (c.withoutEmpty.qregs ++ c.withoutEmpty.cregs).Sublist (c.qregs ++ c.cregs) :=
    (inhabited_sublist c.qregs).append (inhabited_sublist c.cregs)
  refine ⟨fun r hr => h.identifiers r (hsublist.subset hr), h.distinct.sublist (hsublist.map _),
    (unitCount_inhabited_le _).trans h.qubits_le, (unitCount_inhabited_le _).trans h.bits_le, ?_⟩
  intro command hcommand
  refine (h.commands command hcommand).mono (fun w hw => ?_) fun w hw => ?_
  · rwa [qubits_withoutEmpty]
  · rwa [bits_withoutEmpty]

end Circuit

end CircuitBench

namespace CircuitBench.Tket

/-! ### Documents of well-formed circuits -/

/-- Empty registers leave no trace in the text of a circuit. -/
lemma circuitText_withoutEmpty (c : Circuit) : circuitText c.withoutEmpty = circuitText c := by
  unfold circuitText Document.ofCircuit
  rw [Circuit.qubits_withoutEmpty, Circuit.bits_withoutEmpty]
  rfl

/-- A unit of a well-formed circuit is declared. A bit is not mistaken for a qubit, as no register
of qubits has the name of its register. -/
lemma isDeclared_of_mem {c : Circuit} {w : Wire} (h : c.WellFormed)
    (hw : w ∈ c.qubits ∨ w ∈ c.bits) : isDeclared c w = true := by
  have hdistinct := h.distinct
  rw [List.map_append, List.nodup_append] at hdistinct
  refine (isDeclared_iff hdistinct.1 hdistinct.2.1).2 (hw.imp_right fun hw => ⟨hw, fun hmem => ?_⟩)
  obtain ⟨r, hr, hname, -⟩ := mem_flatMap_wires.1 hw
  exact hdistinct.2.2 _ hmem _ (List.mem_map_of_mem hr) hname.symm

/-- The operands of a command with a statement are units of the circuit. -/
lemma mem_units_of_expressible {c : Circuit} {command : Command} (h : c.Expressible command) :
    ∀ w ∈ command.args, w ∈ c.qubits ∨ w ∈ c.bits := by
  intro w hw
  cases h with
  | measure hqubit hbit =>
    rcases List.mem_pair.1 hw with rfl | rfl
    · exact .inl hqubit
    · exact .inr hbit
  | barrier _ hargs => exact .inl (hargs w hw)
  | reset hqubit =>
    rw [List.mem_singleton.1 hw]
    exact .inl hqubit
  | gate _ _ _ _ hargs => exact .inl (hargs w hw)

/-- The operands of a well-formed circuit's commands are declared. -/
lemma isDeclared_of_wellFormed {c : Circuit} (h : c.WellFormed) :
    ∀ command ∈ c.commands, ∀ w ∈ command.args, isDeclared c w = true := by
  intro command hcommand w hw
  exact isDeclared_of_mem h (mem_units_of_expressible (h.commands command hcommand) w hw)

/-- The document of a well-formed circuit is representable. -/
lemma representable_of_wellFormed {c : Circuit} (h : c.WellFormed) :
    (Document.ofCircuit c).Representable := by
  apply representable_of_index_lt h.qubits_le h.bits_le
  intro command hcommand w hw
  rcases mem_units_of_expressible (h.commands command hcommand) w hw with hw | hw
  · exact index_lt_of_mem_wires h.qubits_le hw
  · exact index_lt_of_mem_wires h.bits_le hw

/-- A well-formed circuit with finite angles and without empty registers survives the round trip. -/
lemma serializable_of_wellFormed {c : Circuit} (h : c.WellFormed) (hfinite : c.FiniteAngles)
    (hpos : ∀ r ∈ c.qregs ++ c.cregs, 0 < r.size) (hphase : Number.isFinite c.phase = true) :
    c.Serializable := by
  have hdistinct := h.distinct
  rw [List.map_append, List.nodup_append] at hdistinct
  exact ⟨hdistinct.1, hdistinct.2.1, hpos, h.qubits_le, h.bits_le, hphase, hfinite,
    isDeclared_of_wellFormed h⟩

/-! ### The way there and back -/

/-- The circuit of a program is read from its document, is written as a program, and is read from
this program, with the same registers and the same commands. -/
def Survives (c : Circuit) : Prop :=
  ∃ d, readCircuit (circuitText c) = .ok d ∧
    (d.qregs = c.qregs ∧ d.cregs = c.cregs ∧ d.commands = c.commands) ∧
    ∃ text, Qasm.programText d = .ok text ∧ ∃ e, Qasm.readProgram text = .ok e

/-- The circuit of a program, if its angles are finite, is read from its document up to empty
registers, and from the program that is written for it then up to the rounding of angles. -/
theorem survives_withoutEmpty {source : List Char} {c : Circuit}
    (h : Qasm.readProgram source = .ok c) (hfinite : c.FiniteAngles) :
    readCircuit (circuitText c) = .ok c.withoutEmpty ∧
      ∃ text, Qasm.programText c.withoutEmpty = .ok text ∧
        Qasm.readProgram text = .ok c.withoutEmpty.reread := by
  obtain ⟨hc, hphase⟩ := Qasm.wellFormed_of_addStatements Circuit.wellFormed_empty h
  have hinhabited : ∀ r ∈ c.withoutEmpty.qregs ++ c.withoutEmpty.cregs, 0 < r.size := by
    intro r hr
    rcases List.mem_append.1 hr with hr | hr
    · exact (mem_inhabited.1 hr).2
    · exact (mem_inhabited.1 hr).2
  have hzero : Number.isFinite c.withoutEmpty.phase = true := by
    have hsame : c.withoutEmpty.phase = 0 := hphase
    rw [hsame]
    decide
  have hserializable := serializable_of_wellFormed hc.withoutEmpty hfinite hinhabited hzero
  constructor
  · rw [readCircuit, ← circuitText_withoutEmpty, circuitText,
      Document.read_text (representable_of_wellFormed hc.withoutEmpty)]
    dsimp only
    rw [toCircuit_ofCircuit hserializable]
  · exact ⟨_, Qasm.programText_eq hc.withoutEmpty,
      Qasm.readProgram_closedLines hc.withoutEmpty hfinite⟩

/-- A register without units. -/
def emptyRegisterProgram : List Char :=
  "qreg q[0];".toList

/-- A quotient by zero as an angle. -/
def infiniteAngleProgram : List Char :=
  "qreg q[1]; rz(1/0) q[0];".toList

/-- The circuit of the program with an infinite angle. -/
def infiniteAngleCircuit : Circuit where
  qregs := [⟨"q", 1⟩]
  cregs := []
  commands := [⟨"Rz", [1 / 0 / Number.pi], [⟨"q", 0⟩]⟩]
  phase := 0

/-- Neither an empty register nor an infinite angle survives: the one is lost in the document, the
other is refused when the document is read. -/
theorem not_survives_emptyRegister_infiniteAngle :
    (Qasm.readProgram emptyRegisterProgram = .ok ⟨[⟨"q", 0⟩], [], [], 0⟩ ∧
      ¬ Survives ⟨[⟨"q", 0⟩], [], [], 0⟩) ∧
    Qasm.readProgram infiniteAngleProgram = .ok infiniteAngleCircuit ∧
      ¬ Survives infiniteAngleCircuit := by
  refine ⟨⟨by decide +kernel, ?_⟩, by decide +kernel, ?_⟩
  · rintro ⟨d, hread, ⟨hqregs, -, -⟩, -⟩
    have hempty : readCircuit (circuitText ⟨[⟨"q", 0⟩], [], [], 0⟩) = .ok .empty := by
      decide +kernel
    rw [hempty] at hread
    cases hread
    cases hqregs
  · rintro ⟨d, hread, -, -⟩
    have hrefused : readCircuit (circuitText infiniteAngleCircuit) =
        .error (.invalid (.badParameter "inf" (.unknownIdentifier "inf"))) := by
      decide +kernel
    rw [hrefused] at hread
    cases hread

/-- A program with an empty register of bits. -/
def emptyBitsProgram : List Char :=
  "qreg q[1]; creg c[0]; rz(pi/2) q[0];".toList

/-- The circuit of the program with an empty register of bits. -/
def emptyBitsCircuit : Circuit where
  qregs := [⟨"q", 1⟩]
  cregs := [⟨"c", 0⟩]
  commands := [⟨"Rz", [Number.pi / 2 / Number.pi], [⟨"q", 0⟩]⟩]
  phase := 0

/-- The circuit of the program with an empty register of bits survives without this register. -/
theorem survives_withoutEmpty_emptyBitsCircuit :
    (Qasm.readProgram emptyBitsProgram = .ok emptyBitsCircuit ∧ emptyBitsCircuit.FiniteAngles) ∧
      readCircuit (circuitText emptyBitsCircuit) = .ok emptyBitsCircuit.withoutEmpty ∧
      ∃ text, Qasm.programText emptyBitsCircuit.withoutEmpty = .ok text ∧
        Qasm.readProgram text = .ok emptyBitsCircuit.withoutEmpty.reread := by
  have hread : Qasm.readProgram emptyBitsProgram = .ok emptyBitsCircuit := by decide +kernel
  have hfinite : emptyBitsCircuit.FiniteAngles := by
    unfold Circuit.FiniteAngles
    decide +kernel
  exact ⟨⟨hread, hfinite⟩, survives_withoutEmpty hread hfinite⟩

/-! ### Refused angles -/

/-- The text of an angle that is not finite is a word that is no expression. -/
lemma readAngle_of_infinite {x : Float} (h : Number.isFinite x = false) :
    ∃ cause, readAngle (angleText x) = .error (.badParameter (angleText x) cause) := by
  have hle : Number.infinityBits ≤ Number.magnitudeBits x := by
    simpa [Number.isFinite] using h
  have htext : angleText x = "NaN" ∨ angleText x = "inf" ∨ angleText x = "-inf" := by
    have hplain : Number.halfTurnsText x = Number.plainText x := by
      rw [Number.halfTurnsText, if_pos (by simp [h])]
    unfold angleText
    rw [hplain, Number.plainText]
    by_cases hlt : Number.infinityBits < Number.magnitudeBits x
    · exact .inl (by rw [if_pos hlt])
    · have heq : Number.magnitudeBits x = Number.infinityBits := by omega
      rw [if_neg hlt, if_pos heq]
      rcases Number.isNegative x
      · exact .inr (.inl rfl)
      · exact .inr (.inr rfl)
  rcases htext with htext | htext | htext <;> rw [htext] <;> exact ⟨_, rfl⟩

/-- An angle that is refused is not finite. -/
lemma isFinite_of_readAngle {x : Float} {e : CircuitFault}
    (h : readAngle (angleText x) = .error e) : Number.isFinite x = false := by
  by_contra hfinite
  rw [Bool.not_eq_false] at hfinite
  rw [readAngle_angleText hfinite] at h
  cases h

/-- The instruction of a command with an angle that is not finite is refused for such an angle. -/
lemma toCommand_of_infinite {c : Circuit} {command : Command} {x : Float}
    (hx : x ∈ command.params) (hinfinite : Number.isFinite x = false) :
    ∃ y ∈ command.params, Number.isFinite y = false ∧ ∃ cause,
      (Instruction.ofCommand command).toCommand c = .error (.badParameter (angleText y) cause) := by
  obtain ⟨cause, hcause⟩ := readAngle_of_infinite hinfinite
  obtain ⟨y, hy, e, hread, hparams⟩ :=
    exists_mapM_eq_error (f := fun x => readAngle (angleText x)) hx hcause
  have hyInfinite := isFinite_of_readAngle hread
  obtain ⟨cause', hcause'⟩ := readAngle_of_infinite hyInfinite
  rw [hread] at hcause'
  cases hcause'
  have hne : command.params.isEmpty = false :=
    List.isEmpty_eq_false_iff.2 (List.ne_nil_of_mem hx)
  refine ⟨y, hy, hyInfinite, cause', ?_⟩
  unfold Instruction.toCommand Instruction.ofCommand
  dsimp only
  rw [hne, if_neg (by decide), Option.getD_some, List.mapM_map]
  change (command.params.mapM (fun x => readAngle (angleText x)) >>= fun _ => _) = _
  rw [hparams]
  rfl

/-- The document of a program with an angle that is not finite is refused for such an angle. -/
theorem readCircuit_circuitText_of_infinite {source : List Char} {c : Circuit}
    (h : Qasm.readProgram source = .ok c) (hinfinite : ¬ c.FiniteAngles) :
    ∃ command ∈ c.commands, ∃ x ∈ command.params, Number.isFinite x = false ∧ ∃ cause,
      readCircuit (circuitText c) = .error (.invalid (.badParameter (angleText x) cause)) := by
  obtain ⟨hc, hphase⟩ := Qasm.wellFormed_of_addStatements Circuit.wellFormed_empty h
  obtain ⟨bad, hbad, x, hx, hxInfinite⟩ : ∃ command ∈ c.commands, ∃ x ∈ command.params,
      Number.isFinite x = false := by
    simpa [Circuit.FiniteAngles] using hinfinite
  obtain ⟨y, hy, -, cause, hcause⟩ := toCommand_of_infinite (c := bare c.withoutEmpty) hx hxInfinite
  -- the first instruction that is refused is one with an angle that is not finite
  obtain ⟨command, hcommand, e, hread, hcommands⟩ := exists_mapM_eq_error
    (f := fun command => (Instruction.ofCommand command).toCommand (bare c.withoutEmpty))
    hbad hcause
  obtain ⟨z, hz, hzInfinite⟩ : ∃ z ∈ command.params, Number.isFinite z = false := by
    by_contra hfinite
    have hall : ∀ z ∈ command.params, Number.isFinite z = true := by simpa using hfinite
    have hdeclared := isDeclared_of_wellFormed hc.withoutEmpty command hcommand
    rw [toCommand_ofCommand (c := bare c.withoutEmpty) hall hdeclared] at hread
    cases hread
  obtain ⟨w, hw, hwInfinite, cause', hcause'⟩ :=
    toCommand_of_infinite (c := bare c.withoutEmpty) hz hzInfinite
  rw [hread] at hcause'
  cases hcause'
  refine ⟨command, hcommand, w, hw, hwInfinite, cause', ?_⟩
  have hdistinct := hc.withoutEmpty.distinct
  rw [List.map_append, List.nodup_append] at hdistinct
  have hqregs := registersOf_wires hdistinct.1 (fun r hr => (mem_inhabited.1 hr).2)
    hc.withoutEmpty.qubits_le
  have hcregs := registersOf_wires hdistinct.2.1 (fun r hr => (mem_inhabited.1 hr).2)
    hc.withoutEmpty.bits_le
  have hreadPhase : readAngle (angleText c.withoutEmpty.phase) = .ok c.withoutEmpty.phase := by
    have hzero : c.withoutEmpty.phase = 0 := hphase
    exact readAngle_angleText (by rw [hzero]; decide)
  have hdocument := toCircuit_of_registers hreadPhase hqregs hcregs
  have hsame : c.withoutEmpty.commands = c.commands := rfl
  rw [hsame, hcommands] at hdocument
  rw [readCircuit, ← circuitText_withoutEmpty, circuitText,
    Document.read_text (representable_of_wellFormed hc.withoutEmpty)]
  dsimp only
  rw [hdocument]
  rfl

end CircuitBench.Tket
