import Mathlib
import CircuitBench.Circuit.Qasm.Writing
import CircuitBench.Proofs.Outcomes

/-!
# Well-formed circuits

The circuits that OpenQASM 2.0 can express (`Circuit.WellFormed`): their registers have pairwise
distinct identifiers for names and stay within the limit of units, and every command has a statement
and acts on units that are declared (`Circuit.Expressible`). The writer accepts all of them and
writes them statement by statement (`Qasm.programText_eq`).
-/

namespace CircuitBench

/-! ### Registers -/

/-- A unit belongs to registers when one of them holds it. -/
lemma mem_flatMap_wires {registers : List Register} {w : Wire} :
    w ∈ registers.flatMap Register.wires ↔
      ∃ r ∈ registers, r.name = w.register ∧ w.index < r.size := by
  simp only [List.mem_flatMap, Register.mem_wires]

/-- Among registers with distinct names, a register is found by its name. -/
lemma findRegister?_eq_some {registers : List Register} {r : Register}
    (hnodup : (registers.map Register.name).Nodup) (hr : r ∈ registers) :
    findRegister? registers r.name = some r := by
  induction registers with
  | nil => cases hr
  | cons first others ih =>
    rw [List.map_cons, List.nodup_cons] at hnodup
    rcases List.mem_cons.1 hr with rfl | hr
    · simp [findRegister?]
    · have hne : first.name ≠ r.name := by
        intro h
        rw [h] at hnodup
        exact hnodup.1 (List.mem_map_of_mem hr)
      have hothers := ih hnodup.2 hr
      unfold findRegister? at hothers ⊢
      rw [List.find?_cons_of_neg (by simpa using hne), hothers]

/-- A register that is found is one of them and has the name. -/
lemma of_findRegister?_eq_some {registers : List Register} {name : String} {r : Register}
    (h : findRegister? registers name = some r) : r ∈ registers ∧ r.name = name := by
  unfold findRegister? at h
  exact ⟨List.mem_of_find?_eq_some h, by simpa using List.find?_some h⟩

/-- No register has a name that is not found. -/
lemma findRegister?_isSome_iff {registers : List Register} {name : String} :
    (findRegister? registers name).isSome = true ↔ name ∈ registers.map Register.name := by
  rw [findRegister?, List.find?_isSome, List.mem_map]
  simp only [beq_iff_eq]

/-- Among registers with distinct names, a unit belongs to the one that is found by its name. -/
lemma mem_flatMap_wires_iff_find {registers : List Register} {w : Wire}
    (hnodup : (registers.map Register.name).Nodup) :
    w ∈ registers.flatMap Register.wires ↔
      ∃ r, findRegister? registers w.register = some r ∧ w.index < r.size := by
  rw [mem_flatMap_wires]
  constructor
  · rintro ⟨r, hr, hname, hindex⟩
    exact ⟨r, hname ▸ findRegister?_eq_some hnodup hr, hindex⟩
  · rintro ⟨r, hfind, hindex⟩
    obtain ⟨hr, hname⟩ := of_findRegister?_eq_some hfind
    exact ⟨r, hr, hname, hindex⟩

/-- The number of units is the sum of the sizes. -/
lemma unitCount_eq_sum (registers : List Register) :
    unitCount registers = (registers.map Register.size).sum :=
  List.sum_eq_foldr.symm

/-- A register is not larger than all registers together. -/
lemma size_le_unitCount {registers : List Register} {r : Register} (h : r ∈ registers) :
    r.size ≤ unitCount registers := by
  rw [unitCount_eq_sum]
  exact List.single_le_sum (fun _ _ => Nat.zero_le _) _ (List.mem_map_of_mem h)

/-- The units of registers add up. -/
lemma unitCount_append (registers others : List Register) :
    unitCount (registers ++ others) = unitCount registers + unitCount others := by
  simp [unitCount_eq_sum]

/-! ### Well-formed circuits -/

/-- The commands that have a statement on units of the circuit. -/
inductive Circuit.Expressible (c : Circuit) : Command → Prop
  /-- A qubit is read into a bit. -/
  | measure {qubit bit : Wire} (hqubit : qubit ∈ c.qubits) (hbit : bit ∈ c.bits) :
    Circuit.Expressible c ⟨measureOp, [], [qubit, bit]⟩
  /-- A barrier stands on at least one qubit. -/
  | barrier {args : List Wire} (hne : args ≠ []) (hargs : ∀ w ∈ args, w ∈ c.qubits) :
    Circuit.Expressible c ⟨barrierOp, [], args⟩
  /-- A single qubit is reset. -/
  | reset {qubit : Wire} (hqubit : qubit ∈ c.qubits) : Circuit.Expressible c ⟨resetOp, [], [qubit]⟩
  /-- A gate has its numbers of parameters and of pairwise distinct qubits. -/
  | gate {gate : Gate} {op : String} {params : List Float} {args : List Wire}
    (hgate : Gate.byOp? op = some gate) (hparams : params.length = gate.params)
    (hcount : args.length = gate.qubits) (hnodup : args.Nodup) (hargs : ∀ w ∈ args, w ∈ c.qubits) :
    Circuit.Expressible c ⟨op, params, args⟩

/-- The commands that the writer has a statement for, whatever units they act on. -/
inductive Command.Writable : Command → Prop
  /-- A measurement has two operands. -/
  | measure (params : List Float) (qubit bit : Wire) :
    Command.Writable ⟨measureOp, params, [qubit, bit]⟩
  /-- A barrier has any operands. -/
  | barrier (params : List Float) (args : List Wire) : Command.Writable ⟨barrierOp, params, args⟩
  /-- A reset has any operands. -/
  | reset (params : List Float) (args : List Wire) : Command.Writable ⟨resetOp, params, args⟩
  /-- A gate has its numbers of parameters and of operands. -/
  | gate {gate : Gate} {op : String} {params : List Float} {args : List Wire}
    (hgate : Gate.byOp? op = some gate) (hparams : params.length = gate.params)
    (hcount : args.length = gate.qubits) : Command.Writable ⟨op, params, args⟩

/-- An expressible command is one that the writer has a statement for. -/
lemma Circuit.Expressible.writable {c : Circuit} {command : Command} (h : c.Expressible command) :
    command.Writable := by
  cases h with
  | measure => exact .measure _ _ _
  | barrier => exact .barrier _ _
  | reset => exact .reset _ _
  | gate hgate hparams hcount => exact .gate hgate hparams hcount

/-- A command stays expressible when registers are added. -/
lemma Circuit.Expressible.mono {c d : Circuit} {command : Command} (h : c.Expressible command)
    (hqubits : ∀ w ∈ c.qubits, w ∈ d.qubits) (hbits : ∀ w ∈ c.bits, w ∈ d.bits) :
    d.Expressible command := by
  cases h with
  | measure hqubit hbit => exact .measure (hqubits _ hqubit) (hbits _ hbit)
  | barrier hne hargs => exact .barrier hne fun w hw => hqubits w (hargs w hw)
  | reset hqubit => exact .reset (hqubits _ hqubit)
  | gate hgate hparams hcount hnodup hargs =>
    exact .gate hgate hparams hcount hnodup fun w hw => hqubits w (hargs w hw)

/-- The circuits that OpenQASM 2.0 can express, up to their phase. -/
structure Circuit.WellFormed (c : Circuit) : Prop where
  /-- Registers are named by identifiers. -/
  identifiers : ∀ r ∈ c.qregs ++ c.cregs, Qasm.isIdentifier r.name.toList = true
  /-- No two registers share a name, of whatever kind they are. -/
  distinct : ((c.qregs ++ c.cregs).map Register.name).Nodup
  /-- There are not too many qubits. -/
  qubits_le : unitCount c.qregs ≤ unitLimit
  /-- There are not too many bits. -/
  bits_le : unitCount c.cregs ≤ unitLimit
  /-- Every command has a statement. -/
  commands : ∀ command ∈ c.commands, c.Expressible command

/-- The circuit without registers is well formed. -/
lemma Circuit.wellFormed_empty : Circuit.empty.WellFormed := by
  constructor <;> simp [Circuit.empty, unitCount]

/-- A well-formed circuit stays so with one more command that has a statement. -/
lemma Circuit.WellFormed.push {c : Circuit} {command : Command} (h : c.WellFormed)
    (hcommand : c.Expressible command) : (c.push command).WellFormed := by
  refine ⟨h.identifiers, h.distinct, h.qubits_le, h.bits_le, fun other hother => ?_⟩
  have hmono : c.Expressible other := by
    rcases List.mem_append.1 hother with hother | hother
    · exact h.commands other hother
    · rw [List.mem_singleton.1 hother]
      exact hcommand
  exact hmono.mono (fun _ hw => hw) (fun _ hw => hw)

/-! ### The gate vocabulary -/

/-- A gate that is found by its operation is in the vocabulary under this operation. -/
lemma Gate.of_byOp?_eq_some {op : String} {gate : Gate} (h : Gate.byOp? op = some gate) :
    gate ∈ Gate.all ∧ gate.op = op :=
  ⟨List.mem_of_find?_eq_some h, by simpa using List.find?_some h⟩

/-- A gate that is found by its name is in the vocabulary. -/
lemma Gate.mem_of_byName?_eq_some {name : String} {gate : Gate}
    (h : Gate.byName? name = some gate) : gate ∈ Gate.all :=
  List.mem_of_find?_eq_some h

/-- Names are not used twice in the vocabulary. -/
lemma Gate.byName?_name : ∀ gate ∈ Gate.all, Gate.byName? gate.name = some gate := by
  decide

/-- Names that stand for one operation agree about its parameters and qubits. -/
lemma Gate.byOp?_op : ∀ gate ∈ Gate.all, ∃ first, Gate.byOp? gate.op = some first ∧
    first.params = gate.params ∧ first.qubits = gate.qubits := by
  decide

/-- The names in the vocabulary are identifiers. -/
lemma Gate.isIdentifier_name : ∀ gate ∈ Gate.all, Qasm.isIdentifier gate.name.toList = true := by
  decide

/-- Every gate acts on some qubit. -/
lemma Gate.qubits_pos : ∀ gate ∈ Gate.all, 0 < gate.qubits := by
  decide

/-- No operation in the vocabulary is one of those with statements of their own. -/
lemma Gate.op_ne : ∀ gate ∈ Gate.all,
    gate.op ≠ measureOp ∧ gate.op ≠ barrierOp ∧ gate.op ≠ resetOp := by
  decide

end CircuitBench

namespace CircuitBench.Qasm

/-! ### The writer on well-formed circuits -/

/-- The declaration of a register without its semicolon. -/
def registerBody (keyword : List Char) (r : Register) : List Char :=
  keyword ++ ' ' :: wireText ⟨r.name, r.size⟩

/-- The statement of a command without its semicolon; nothing for commands without one. -/
def commandBody (command : Command) : List Char :=
  if command.op == measureOp then
    "measure ".toList ++ Text.join " -> ".toList (command.args.map wireText)
  else if command.op == barrierOp then "barrier ".toList ++ wiresText command.args
  else if command.op == resetOp then "reset ".toList ++ wiresText command.args
  else match Gate.byOp? command.op with
    | none => []
    | some gate => gate.name.toList ++ paramsText command.params ++ ' ' :: wiresText command.args

/-- The bodies of all statements of a circuit behind the header. -/
def bodies (c : Circuit) : List (List Char) :=
  c.qregs.map (registerBody "qreg".toList) ++ c.cregs.map (registerBody "creg".toList) ++
    c.commands.map commandBody

/-- Statements, each closed on a line of its own. -/
def closedLines (bodies : List (List Char)) : List Char :=
  (bodies.map (· ++ [';', '\n'])).flatten

/-- A register that is named by an identifier is written. -/
lemma registerText_eq {keyword : List Char} {r : Register}
    (h : isIdentifier r.name.toList = true) :
    registerText keyword r = .ok (registerBody keyword r ++ [';', '\n']) := by
  rw [registerText, if_pos h, registerBody]
  simp

/-- A command that the writer has a statement for is written. -/
lemma commandLine_eq {command : Command} (h : command.Writable) :
    commandLine command = .ok (commandBody command ++ [';', '\n']) := by
  cases h with
  | measure => simp [commandLine, commandText, commandBody, Except.map, Text.join, List.intersperse]
  | barrier => simp [commandLine, commandText, commandBody, Except.map, barrierOp, measureOp]
  | reset => simp [commandLine, commandText, commandBody, Except.map, resetOp, barrierOp, measureOp]
  | @gate gate op params args hgate hparams hcount =>
    obtain ⟨hmem, rfl⟩ := Gate.of_byOp?_eq_some hgate
    obtain ⟨hmeasure, hbarrier, hreset⟩ := Gate.op_ne gate hmem
    simp [commandLine, commandText, commandBody, Except.map, hmeasure, hbarrier, hreset, hgate,
      hparams, hcount]

/-- The program of a circuit that the writer has statements for: the header, and every statement on
a line of its own. -/
lemma programText_of_writable {c : Circuit}
    (hidentifiers : ∀ r ∈ c.qregs ++ c.cregs, isIdentifier r.name.toList = true)
    (hwritable : ∀ command ∈ c.commands, command.Writable) :
    programText c = .ok (header ++ closedLines (bodies c)) := by
  have hq : c.qregs.mapM (registerText "qreg".toList) = .ok (c.qregs.map
      fun r => registerBody "qreg".toList r ++ [';', '\n']) :=
    mapM_eq_ok fun r hr => registerText_eq (hidentifiers r (List.mem_append_left _ hr))
  have hc : c.cregs.mapM (registerText "creg".toList) = .ok (c.cregs.map
      fun r => registerBody "creg".toList r ++ [';', '\n']) :=
    mapM_eq_ok fun r hr => registerText_eq (hidentifiers r (List.mem_append_right _ hr))
  have hcommands : c.commands.mapM commandLine = .ok (c.commands.map
      fun command => commandBody command ++ [';', '\n']) :=
    mapM_eq_ok fun command hcommand => commandLine_eq (hwritable command hcommand)
  rw [programText, hq, hc, hcommands, closedLines, bodies]
  simp only [List.map_append, List.map_map, Function.comp_def]
  rfl

/-- The program of a well-formed circuit. -/
lemma programText_eq {c : Circuit} (h : c.WellFormed) :
    programText c = .ok (header ++ closedLines (bodies c)) :=
  programText_of_writable h.identifiers fun command hcommand =>
    (h.commands command hcommand).writable

end CircuitBench.Qasm
