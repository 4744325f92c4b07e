/-!
# Circuits

A `Circuit` declares registers of qubits and of bits and lists commands on their units, each a
`Wire` of a register. Angles are counted in half-turns, multiples of pi. `unitLimit` is the most
qubits, and separately the most bits, that a circuit may declare.
-/

namespace CircuitBench

/-- One qubit or bit, given by its register and its place in it. -/
structure Wire where
  register : String
  index : Nat
deriving DecidableEq, Repr

/-- The two kinds of units. -/
inductive UnitKind where
  | qubit
  | bit
deriving DecidableEq, Repr

/-- A named register of `size` units. -/
structure Register where
  name : String
  size : Nat
deriving DecidableEq, Repr

/-- One operation applied to some units, its parameters in half-turns. -/
structure Command where
  op : String
  params : List Float
  args : List Wire
deriving BEq, Repr

/-- Registers of qubits and of bits, the commands on them, and the global phase in half-turns. -/
structure Circuit where
  qregs : List Register
  cregs : List Register
  commands : List Command
  phase : Float
deriving BEq, Repr

/-- The written form of a unit. -/
def Wire.text (w : Wire) : String :=
  s!"{w.register}[{w.index}]"

/-- The units of a register, in order. -/
def Register.wires (r : Register) : List Wire :=
  (List.range r.size).map (⟨r.name, ·⟩)

/-- The register with a name, the first if there are several. -/
def findRegister? (registers : List Register) (name : String) : Option Register :=
  registers.find? (·.name == name)

/-- The number of units that registers declare together. -/
def unitCount (registers : List Register) : Nat :=
  (registers.map Register.size).foldr (· + ·) 0

/-- The most qubits, and separately the most bits, that a circuit may declare. -/
def unitLimit : Nat := Nat.pow 2 20

namespace Circuit

/-- The circuit without registers, commands or phase. -/
def empty : Circuit := ⟨[], [], [], 0⟩

/-- All qubits, register by register. -/
def qubits (c : Circuit) : List Wire :=
  c.qregs.flatMap Register.wires

/-- All bits, register by register. -/
def bits (c : Circuit) : List Wire :=
  c.cregs.flatMap Register.wires

/-- The register of qubits with a name. -/
def qreg? (c : Circuit) (name : String) : Option Register :=
  findRegister? c.qregs name

/-- The register of bits with a name. -/
def creg? (c : Circuit) (name : String) : Option Register :=
  findRegister? c.cregs name

/-- The registers of one kind. -/
def registers (c : Circuit) : UnitKind → List Register
  | .qubit => c.qregs
  | .bit => c.cregs

/-- The circuit with one more register at the end of its kind. -/
def declare (c : Circuit) (register : Register) : UnitKind → Circuit
  | .qubit => { c with qregs := c.qregs ++ [register] }
  | .bit => { c with cregs := c.cregs ++ [register] }

/-- The circuit with one more command at its end. -/
def push (c : Circuit) (command : Command) : Circuit :=
  { c with commands := c.commands ++ [command] }

@[simp] theorem push_commands (c : Circuit) (command : Command) :
    (c.push command).commands = c.commands ++ [command] := rfl

@[simp] theorem push_qregs (c : Circuit) (command : Command) :
    (c.push command).qregs = c.qregs := rfl

@[simp] theorem push_cregs (c : Circuit) (command : Command) :
    (c.push command).cregs = c.cregs := rfl

@[simp] theorem push_phase (c : Circuit) (command : Command) :
    (c.push command).phase = c.phase := rfl

end Circuit

/-- The units of a register carry its name and have a place below its size. -/
theorem Register.mem_wires {r : Register} {w : Wire} :
    w ∈ r.wires ↔ r.name = w.register ∧ w.index < r.size := by
  cases w
  simp only [Register.wires, List.mem_map, List.mem_range, Wire.mk.injEq]
  constructor
  · rintro ⟨i, hi, rfl, rfl⟩
    exact ⟨rfl, hi⟩
  · rintro ⟨rfl, hi⟩
    exact ⟨_, hi, rfl, rfl⟩

end CircuitBench
