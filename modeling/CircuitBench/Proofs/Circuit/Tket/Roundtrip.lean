import CircuitBench.Circuit.Tket.Conversion
import CircuitBench.Proofs.Circuit.AngleText
import CircuitBench.Proofs.Circuit.Tket.DocumentText
import CircuitBench.Proofs.Circuit.WellFormed

/-!
# The round trip of TKET documents

A circuit is flattened to its units when it is written, and its registers are rebuilt from them when
it is read (`registersOf_wires`). Registers come back in their order and with their sizes, as every
register shows itself by its units, all of them in a row. Commands are rebuilt from their
instructions (`toCommand_ofCommand`), so a written circuit is read as itself when it is one that can
survive (`Circuit.Serializable`, `readCircuit_circuitText`).
-/

namespace CircuitBench

/-- The circuits that TKET documents can hold: registers are told apart by their names, show
themselves by at least one unit and keep within the limit, angles are finite, and every operand is
declared. Nothing is asked of names and operations. -/
structure Circuit.Serializable (c : Circuit) : Prop where
  /-- The names of registers of qubits are distinct. -/
  distinct_qregs : (c.qregs.map Register.name).Nodup
  /-- The names of registers of bits are distinct. -/
  distinct_cregs : (c.cregs.map Register.name).Nodup
  /-- No register is empty. -/
  size_pos : ∀ r ∈ c.qregs ++ c.cregs, 0 < r.size
  /-- There are not too many qubits. -/
  qubits_le : unitCount c.qregs ≤ unitLimit
  /-- There are not too many bits. -/
  bits_le : unitCount c.cregs ≤ unitLimit
  /-- The phase is finite. -/
  phase_finite : Number.isFinite c.phase = true
  /-- Parameters are finite. -/
  params_finite : ∀ command ∈ c.commands, ∀ x ∈ command.params, Number.isFinite x = true
  /-- Operands are declared. -/
  declared : ∀ command ∈ c.commands, ∀ w ∈ command.args, Tket.isDeclared c w = true

end CircuitBench

namespace CircuitBench.Tket

/-! ### Registers -/

/-- The first unit of a register adds it behind the others. -/
lemma coverUnit_of_not_mem {registers : List Register} {w : Wire}
    (h : w.register ∉ registers.map Register.name) :
    coverUnit w registers = registers ++ [⟨w.register, w.index + 1⟩] := by
  induction registers with
  | nil => rfl
  | cons r registers ih =>
    rw [List.map_cons, List.mem_cons, not_or] at h
    rw [coverUnit, if_neg (Ne.symm h.1), ih h.2, List.cons_append]

/-- The next unit of the last register makes it larger by one. -/
lemma coverUnit_append {registers : List Register} {name : String}
    (h : name ∉ registers.map Register.name) (size : Nat) :
    coverUnit ⟨name, size⟩ (registers ++ [⟨name, size⟩]) = registers ++ [⟨name, size + 1⟩] := by
  induction registers with
  | nil => simp [coverUnit]
  | cons r registers ih =>
    rw [List.map_cons, List.mem_cons, not_or] at h
    rw [List.cons_append, coverUnit, if_neg (Ne.symm h.1), ih h.2, List.cons_append]

/-- A unit within the limit is added. -/
lemma addPlace_ofWire {registers : List Register} {w : Wire} (h : w.index < unitLimit) :
    addPlace registers (Place.ofWire w) = .ok (coverUnit w registers) := by
  unfold addPlace
  change (if w.index < unitLimit then pure (coverUnit w registers) else throw _) = _
  rw [if_pos h]
  rfl

/-- The first units of a register rebuild a register of their number. -/
lemma foldlM_addPlace_range {registers : List Register} {name : String}
    (h : name ∉ registers.map Register.name) {size : Nat} (hsize : size < unitLimit) :
    (((List.range (size + 1)).map (⟨name, ·⟩)).map Place.ofWire).foldlM addPlace registers =
      .ok (registers ++ [⟨name, size + 1⟩]) := by
  induction size with
  | zero =>
    change (addPlace registers (Place.ofWire ⟨name, 0⟩) >>= fun acc => .ok acc) = _
    rw [addPlace_ofWire hsize, coverUnit_of_not_mem h]
    rfl
  | succ size ih =>
    rw [List.range_succ, List.map_append, List.map_append, List.foldlM_append, ih (by omega)]
    change (addPlace _ (Place.ofWire ⟨name, size + 1⟩) >>= fun acc => .ok acc) = _
    rw [addPlace_ofWire hsize, coverUnit_append h]
    rfl

/-- Registers are rebuilt from their units, behind those that are there. -/
lemma foldlM_addPlace_wires {before registers : List Register}
    (hnodup : ((before ++ registers).map Register.name).Nodup)
    (hpos : ∀ r ∈ registers, 0 < r.size) (hlimit : ∀ r ∈ registers, r.size ≤ unitLimit) :
    ((registers.flatMap Register.wires).map Place.ofWire).foldlM addPlace before =
      .ok (before ++ registers) := by
  induction registers generalizing before with
  | nil =>
    rw [List.append_nil]
    rfl
  | cons r registers ih =>
    obtain ⟨size, hsize⟩ := Nat.exists_eq_add_one.2 (hpos r List.mem_cons_self)
    have hlimitr := hlimit r List.mem_cons_self
    have hnew : r.name ∉ before.map Register.name := by
      rw [List.map_append, List.map_cons, List.nodup_append] at hnodup
      exact fun hmem => hnodup.2.2 _ hmem _ List.mem_cons_self rfl
    have hfirst : (r.wires.map Place.ofWire).foldlM addPlace before = .ok (before ++ [r]) := by
      have hlt : size < unitLimit := by omega
      have hr : r = ⟨r.name, size + 1⟩ := by rw [← hsize]
      rw [Register.wires, hsize, foldlM_addPlace_range hnew hlt, ← hr]
    have hrest := @ih (before ++ [r]) (by simpa using hnodup)
      (fun s hs => hpos s (List.mem_cons_of_mem _ hs))
      (fun s hs => hlimit s (List.mem_cons_of_mem _ hs))
    rw [List.flatMap_cons, List.map_append, List.foldlM_append, hfirst]
    change ((registers.flatMap Register.wires).map Place.ofWire).foldlM addPlace (before ++ [r]) = _
    rw [hrest, List.append_assoc, List.singleton_append]

/-- Registers that take up all units are rebuilt when they are within the limit. -/
lemma registersOf_eq_ok {places : List Place} {registers : List Register}
    (hfold : places.foldlM addPlace [] = .ok registers) (hle : unitCount registers ≤ unitLimit) :
    registersOf places = .ok registers := by
  have hcheck : checkUnitCount registers = .ok () := by
    rw [checkUnitCount, if_neg (Nat.not_lt.2 hle)]
  unfold registersOf
  rw [hfold]
  change (checkUnitCount registers >>= fun _ => .ok registers) = _
  rw [hcheck]
  rfl

/-- The registers of the units of registers are these registers. -/
lemma registersOf_wires {registers : List Register}
    (hnodup : (registers.map Register.name).Nodup) (hpos : ∀ r ∈ registers, 0 < r.size)
    (hle : unitCount registers ≤ unitLimit) :
    registersOf ((registers.flatMap Register.wires).map Place.ofWire) = .ok registers :=
  registersOf_eq_ok (@foldlM_addPlace_wires [] registers hnodup hpos
    fun _ hr => (size_le_unitCount hr).trans hle) hle

/-! ### Angles and commands -/

/-- A written angle is read back. -/
lemma readAngle_angleText {x : Float} (h : Number.isFinite x = true) :
    readAngle (angleText x) = .ok x := by
  rw [readAngle, angleText, String.toList_ofList, evaluate_halfTurnsText h]

/-- The parameters of a command are read back, also where none are written. -/
lemma mapM_readAngle {params : List Float} (h : ∀ x ∈ params, Number.isFinite x = true) :
    ((if params.isEmpty then none else some (params.map angleText)).getD []).mapM readAngle =
      .ok params := by
  have hparams : (params.map angleText).mapM readAngle = .ok (params.map id) := by
    rw [List.mapM_map]
    exact mapM_eq_ok fun x hx => readAngle_angleText (h x hx)
  rw [List.map_id] at hparams
  cases params with
  | nil => rfl
  | cons x params => exact hparams

/-- A serial form denotes a unit when it is that of the unit. -/
lemma toWire_eq_ok_iff {p : Place} {w : Wire} : p.toWire = .ok w ↔ p = Place.ofWire w := by
  constructor
  · intro h
    obtain ⟨name, indices⟩ := p
    unfold Place.toWire at h
    split at h
    next index hindices =>
      cases hindices
      cases h
      rfl
    next => cases h
  · rintro rfl
    rfl

/-- Serial forms denote units when they are those of the units. -/
lemma mapM_toWire_eq_ok_iff {places : List Place} {ws : List Wire} :
    places.mapM Place.toWire = .ok ws ↔ places = ws.map Place.ofWire := by
  constructor
  · intro h
    induction places generalizing ws with
    | nil =>
      cases h
      rfl
    | cons p places ih =>
      rw [List.mapM_cons] at h
      obtain ⟨w, hw, h⟩ := of_bind_eq_ok h
      obtain ⟨others, hothers, h⟩ := of_bind_eq_ok h
      cases h
      rw [toWire_eq_ok_iff.1 hw, ih hothers, List.map_cons]
  · rintro rfl
    have hws : (ws.map Place.ofWire).mapM Place.toWire = .ok (ws.map id) := by
      rw [List.mapM_map]
      exact mapM_eq_ok fun w _ => rfl
    rw [hws, List.map_id]

/-- An operand passes the check when it is declared. -/
lemma checkDeclared_eq_ok_iff {c : Circuit} {op : String} {w : Wire} :
    checkDeclared c op w = .ok () ↔ isDeclared c w = true := by
  unfold checkDeclared
  split
  next h => exact iff_of_true rfl h
  next h => exact iff_of_false nofun h

/-- Operands pass the check when all of them are declared. -/
lemma forM_checkDeclared_eq_ok_iff {c : Circuit} {op : String} {args : List Wire} :
    args.forM (checkDeclared c op) = .ok () ↔ ∀ w ∈ args, isDeclared c w = true := by
  induction args with
  | nil => exact iff_of_true rfl nofun
  | cons w args ih =>
    rw [List.forall_mem_cons, ← ih, ← @checkDeclared_eq_ok_iff c op w]
    change (checkDeclared c op w >>= fun _ => args.forM (checkDeclared c op)) = _ ↔ _
    constructor
    · intro h
      obtain ⟨⟨⟩, hw, hargs⟩ := of_bind_eq_ok h
      exact ⟨hw, hargs⟩
    · rintro ⟨hw, hargs⟩
      rw [hw]
      exact hargs

/-- An instruction is read as a command when its parameters can be read, its operands have one index
each, and all of them are declared. -/
lemma toCommand_eq_ok_iff {c : Circuit} {i : Instruction} {command : Command} :
    i.toCommand c = .ok command ↔ ∃ params args,
      (i.op.params.getD []).mapM readAngle = .ok params ∧ i.args = args.map Place.ofWire ∧
        (∀ w ∈ args, isDeclared c w = true) ∧ command = ⟨i.op.type, params, args⟩ := by
  unfold Instruction.toCommand
  constructor
  · intro h
    obtain ⟨params, hparams, h⟩ := of_bind_eq_ok h
    obtain ⟨args, hargs, h⟩ := of_bind_eq_ok h
    obtain ⟨⟨⟩, hcheck, h⟩ := of_bind_eq_ok h
    cases h
    exact ⟨params, args, hparams, mapM_toWire_eq_ok_iff.1 hargs,
      forM_checkDeclared_eq_ok_iff.1 hcheck, rfl⟩
  · rintro ⟨params, args, hparams, hargs, hdeclared, rfl⟩
    rw [hparams, mapM_toWire_eq_ok_iff.2 hargs]
    change (args.forM (checkDeclared c i.op.type) >>= fun _ => _) = _
    rw [forM_checkDeclared_eq_ok_iff.2 hdeclared]
    rfl

/-- A command on declared units is rebuilt from its instruction. -/
lemma toCommand_ofCommand {c : Circuit} {command : Command}
    (hfinite : ∀ x ∈ command.params, Number.isFinite x = true)
    (hdeclared : ∀ w ∈ command.args, isDeclared c w = true) :
    (Instruction.ofCommand command).toCommand c = .ok command :=
  toCommand_eq_ok_iff.2
    ⟨command.params, command.args, mapM_readAngle hfinite, rfl, hdeclared, rfl⟩

/-! ### Circuits -/

/-- A declared unit lies in a register of its name. -/
lemma exists_register_of_isDeclared {c : Circuit} {w : Wire} (h : isDeclared c w = true) :
    ∃ r ∈ c.qregs ++ c.cregs, r.name = w.register ∧ w.index < r.size := by
  unfold isDeclared at h
  split at h
  · next r hr =>
    rw [Option.or_eq_some_iff] at hr
    rcases hr with hr | ⟨-, hr⟩
    · obtain ⟨hmem, hname⟩ := of_findRegister?_eq_some hr
      exact ⟨r, List.mem_append_left _ hmem, hname, of_decide_eq_true h⟩
    · obtain ⟨hmem, hname⟩ := of_findRegister?_eq_some hr
      exact ⟨r, List.mem_append_right _ hmem, hname, of_decide_eq_true h⟩
  · cases h

/-- The declared units are the qubits, and the bits of the registers whose name no register of
qubits has. -/
lemma isDeclared_iff {c : Circuit} {w : Wire} (hqregs : (c.qregs.map Register.name).Nodup)
    (hcregs : (c.cregs.map Register.name).Nodup) :
    isDeclared c w = true ↔
      w ∈ c.qubits ∨ w ∈ c.bits ∧ w.register ∉ c.qregs.map Register.name := by
  unfold isDeclared Circuit.qubits Circuit.bits Circuit.qreg? Circuit.creg?
  rw [mem_flatMap_wires_iff_find hqregs, mem_flatMap_wires_iff_find hcregs,
    ← findRegister?_isSome_iff]
  cases findRegister? c.qregs w.register with
  | some r => simp
  | none => cases findRegister? c.cregs w.register <;> simp

/-- A declared unit of a circuit within the limits has a place below them. -/
lemma index_lt_of_isDeclared {c : Circuit} {w : Wire} (hqubits : unitCount c.qregs ≤ unitLimit)
    (hbits : unitCount c.cregs ≤ unitLimit) (hw : isDeclared c w = true) : w.index < unitLimit := by
  obtain ⟨r, hr, -, hindex⟩ := exists_register_of_isDeclared hw
  rcases List.mem_append.1 hr with hr | hr
  · exact hindex.trans_le ((size_le_unitCount hr).trans hqubits)
  · exact hindex.trans_le ((size_le_unitCount hr).trans hbits)

/-- A unit of registers within the limit has a place below it. -/
lemma index_lt_of_mem_wires {registers : List Register} {w : Wire}
    (hle : unitCount registers ≤ unitLimit) (hw : w ∈ registers.flatMap Register.wires) :
    w.index < unitLimit := by
  obtain ⟨r, hr, -, hindex⟩ := mem_flatMap_wires.1 hw
  exact hindex.trans_le ((size_le_unitCount hr).trans hle)

/-- A unit within the limit is representable. -/
lemma representable_ofWire {w : Wire} (h : w.index < unitLimit) :
    (Place.ofWire w).Representable := by
  intro index hindex
  rw [List.mem_singleton.1 hindex]
  exact h.trans (by decide)

/-- The document of a circuit within the limits is representable. -/
lemma representable_of_index_lt {c : Circuit} (hqubits : unitCount c.qregs ≤ unitLimit)
    (hbits : unitCount c.cregs ≤ unitLimit)
    (hargs : ∀ command ∈ c.commands, ∀ w ∈ command.args, w.index < unitLimit) :
    (Document.ofCircuit c).Representable := by
  have hqubit : ∀ w ∈ c.qubits, (Place.ofWire w).Representable := fun w hw =>
    representable_ofWire (index_lt_of_mem_wires hqubits hw)
  have hbit : ∀ w ∈ c.bits, (Place.ofWire w).Representable := fun w hw =>
    representable_ofWire (index_lt_of_mem_wires hbits hw)
  constructor
  · exact List.forall_mem_map.2 hbit
  · intro i hi
    obtain ⟨command, hcommand, rfl⟩ := List.mem_map.1 hi
    exact List.forall_mem_map.2 fun w hw => representable_ofWire (hargs command hcommand w hw)
  · exact fun p hp => absurd hp List.not_mem_nil
  · exact fun p hp => absurd hp List.not_mem_nil
  · exact List.forall_mem_map.2 fun w hw => ⟨hqubit w hw, hqubit w hw⟩
  · exact List.forall_mem_map.2 hqubit

/-- The document of a circuit that survives the round trip is representable. -/
lemma representable_ofCircuit {c : Circuit} (h : c.Serializable) :
    (Document.ofCircuit c).Representable :=
  representable_of_index_lt h.qubits_le h.bits_le fun command hcommand w hw =>
    index_lt_of_isDeclared h.qubits_le h.bits_le (h.declared command hcommand w hw)

/-- A circuit without commands, up to which documents are read before their commands. -/
def bare (c : Circuit) : Circuit :=
  { c with commands := [] }

/-- Once the phase and the registers are rebuilt, a document is read command by command. -/
lemma toCircuit_eq {d : Document} {c : Circuit} (hphase : readAngle d.phase = .ok c.phase)
    (hqubits : registersOf d.qubits = .ok c.qregs) (hbits : registersOf d.bits = .ok c.cregs) :
    d.toCircuit = (d.commands.mapM (Instruction.toCommand (bare c))).map
      fun commands => { c with commands } := by
  unfold Document.toCircuit
  rw [hphase, hqubits, hbits]
  rfl

/-- So it is with the document of a circuit, whose instructions are those of its commands. -/
lemma toCircuit_of_registers {c : Circuit} (hphase : readAngle (angleText c.phase) = .ok c.phase)
    (hqregs : registersOf (c.qubits.map Place.ofWire) = .ok c.qregs)
    (hcregs : registersOf (c.bits.map Place.ofWire) = .ok c.cregs) :
    (Document.ofCircuit c).toCircuit =
      (c.commands.mapM fun command => (Instruction.ofCommand command).toCommand (bare c)).map
        fun commands => { c with commands := commands } := by
  have hdocument := toCircuit_eq (d := Document.ofCircuit c) (c := c) hphase hqregs hcregs
  rw [hdocument, Document.ofCircuit, List.mapM_map]
  rfl

/-- A circuit is rebuilt from its document. -/
lemma toCircuit_ofCircuit {c : Circuit} (h : c.Serializable) :
    (Document.ofCircuit c).toCircuit = .ok c := by
  have hphase := readAngle_angleText h.phase_finite
  have hqregs := registersOf_wires h.distinct_qregs
    (fun r hr => h.size_pos r (List.mem_append_left _ hr)) h.qubits_le
  have hcregs := registersOf_wires h.distinct_cregs
    (fun r hr => h.size_pos r (List.mem_append_right _ hr)) h.bits_le
  have hcommands : (c.commands.mapM fun command =>
      (Instruction.ofCommand command).toCommand (bare c)) = .ok (c.commands.map id) :=
    mapM_eq_ok fun command hcommand =>
      toCommand_ofCommand (h.params_finite command hcommand) (h.declared command hcommand)
  rw [toCircuit_of_registers hphase hqregs hcregs, hcommands, List.map_id]
  rfl

/-- The text of a circuit is read as the circuit. -/
theorem readCircuit_circuitText {c : Circuit} (h : c.Serializable) :
    readCircuit (circuitText c) = .ok c := by
  rw [readCircuit, circuitText, Document.read_text (representable_ofCircuit h)]
  dsimp only
  rw [toCircuit_ofCircuit h]

/-- A circuit with names that need escapes, an operation without parameters and a negative phase. -/
def oddlyNamedCircuit : Circuit where
  qregs := [⟨"q \"1\"", 2⟩, ⟨"", 1⟩]
  cregs := [⟨"q \"1\"", 1⟩]
  commands := [
    ⟨"PhasedX", [-0.0, 1.5], [⟨"", 0⟩]⟩,
    ⟨barrierOp, [], [⟨"q \"1\"", 1⟩, ⟨"q \"1\"", 1⟩]⟩]
  phase := -0.25

/-- The oddly named circuit survives the round trip. -/
lemma serializable_oddlyNamedCircuit : oddlyNamedCircuit.Serializable := by
  constructor <;> decide

/-- The text of the oddly named circuit is read as this circuit. -/
theorem readCircuit_circuitText_oddlyNamedCircuit :
    oddlyNamedCircuit.Serializable ∧
      readCircuit (circuitText oddlyNamedCircuit) = .ok oddlyNamedCircuit :=
  ⟨serializable_oddlyNamedCircuit, readCircuit_circuitText serializable_oddlyNamedCircuit⟩

end CircuitBench.Tket
