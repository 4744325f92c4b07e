import CircuitBench.Circuit.Error
import CircuitBench.Circuit.Gate
import CircuitBench.Circuit.Tket.Document
import CircuitBench.Number.Printing

/-!
# Circuits and their TKET documents

Registers have no place in a document, only their units. `registersOf` rebuilds them with one
register for each name, in order of first appearance, as large as the largest index asks for, and
`Document.toCircuit` checks every angle and operand of a document against them. `circuitText` and
`readCircuit` go between circuits and JSON texts.
-/

namespace CircuitBench.Tket

/-! ### From a circuit to a document -/

/-- The serial form of a unit. -/
def Place.ofWire (w : Wire) : Place :=
  ⟨w.register, [w.index]⟩

/-- An angle as a text that always shows a fraction. -/
def angleText (x : Float) : String :=
  String.ofList (Number.halfTurnsText x)

/-- The instruction of a command. Parameters are left out where there are none; a barrier names the
kind of each operand. -/
def Instruction.ofCommand (c : Command) : Instruction where
  op := {
    type := c.op
    params := if c.params.isEmpty then none else some (c.params.map angleText)
    signature := if c.op == barrierOp then some (c.args.map fun _ => "Q") else none }
  args := c.args.map Place.ofWire

/-- The document of a circuit. Every qubit stays where it is. -/
def Document.ofCircuit (c : Circuit) : Document where
  bits := c.bits.map Place.ofWire
  commands := c.commands.map Instruction.ofCommand
  createdQubits := []
  discardedQubits := []
  implicitPermutation := c.qubits.map fun q => (Place.ofWire q, Place.ofWire q)
  phase := angleText c.phase
  qubits := c.qubits.map Place.ofWire

/-- The JSON text of a circuit. -/
def circuitText (c : Circuit) : List Char :=
  (Document.ofCircuit c).text

/-! ### From a document to a circuit -/

/-- The unit of a serial form that has exactly one index. -/
def Place.toWire (p : Place) : Except CircuitFault Wire :=
  match p.indices with
  | [index] => .ok ⟨p.register, index⟩
  | others => .error (.indexCount p.register others.length)

/-- Registers of which the one with the unit's name is large enough for it. -/
def coverUnit (w : Wire) : List Register → List Register
  | [] => [⟨w.register, w.index + 1⟩]
  | r :: others =>
    if r.name = w.register then ⟨r.name, max r.size (w.index + 1)⟩ :: others
    else r :: coverUnit w others

/-- Registers that cover one more unit, whose index alone keeps within the limit. -/
def addPlace (registers : List Register) (p : Place) : Except CircuitFault (List Register) := do
  let w ← p.toWire
  if w.index < unitLimit then return coverUnit w registers else throw (.beyondLimit w)

/-- The registers that a list of units stands for. -/
def registersOf (places : List Place) : Except CircuitFault (List Register) := do
  let registers ← places.foldlM addPlace []
  checkUnitCount registers
  return registers

/-- The angle that a text denotes. -/
def readAngle (text : String) : Except CircuitFault Float :=
  match evaluate text.toList with
  | .ok x => .ok x
  | .error cause => .error (.badParameter text cause)

/-- Whether a unit lies in the first register of its name, qubits before bits. -/
def isDeclared (c : Circuit) (w : Wire) : Bool :=
  match (c.qreg? w.register).or (c.creg? w.register) with
  | some r => w.index < r.size
  | none => false

/-- The check of one operand. -/
def checkDeclared (c : Circuit) (op : String) (w : Wire) : Except CircuitFault Unit :=
  if isDeclared c w then .ok () else .error (.undeclaredUnit op w)

/-- The command of an instruction on declared units. -/
def Instruction.toCommand (c : Circuit) (i : Instruction) : Except CircuitFault Command := do
  let params ← (i.op.params.getD []).mapM readAngle
  let args ← i.args.mapM Place.toWire
  args.forM (checkDeclared c i.op.type)
  return ⟨i.op.type, params, args⟩

/-- The circuit of a document: its phase, then its registers, then its commands are checked. -/
def Document.toCircuit (d : Document) : Except CircuitFault Circuit := do
  let phase ← readAngle d.phase
  let qregs ← registersOf d.qubits
  let cregs ← registersOf d.bits
  let registers : Circuit := ⟨qregs, cregs, [], phase⟩
  let commands ← d.commands.mapM (Instruction.toCommand registers)
  return { registers with commands }

/-- The circuit that a JSON text holds. -/
def readCircuit (cs : List Char) : Except CircuitError Circuit :=
  match Document.read cs with
  | .error fault => .error (.json fault)
  | .ok d =>
    match d.toCircuit with
    | .error fault => .error (.invalid fault)
    | .ok c => .ok c

end CircuitBench.Tket
