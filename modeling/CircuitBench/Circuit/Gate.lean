/-!
# The gate vocabulary

The gates of the standard OpenQASM 2.0 library that have a counterpart among the TKET operations. A
`Gate` has its name in either vocabulary, and `Gate.byName?` and `Gate.byOp?` look it up. Where
several names in `Gate.all` stand for one operation, the first is used in writing.
-/

namespace CircuitBench

/-- A gate: its OpenQASM name, its TKET operation, and how many parameters and qubits it takes. -/
structure Gate where
  name : String
  op : String
  params : Nat
  qubits : Nat
deriving DecidableEq, Repr

namespace Gate

/-- The gates that are read and written. -/
def all : List Gate := [
  ⟨"id", "noop", 0, 1⟩,
  ⟨"x", "X", 0, 1⟩,
  ⟨"y", "Y", 0, 1⟩,
  ⟨"z", "Z", 0, 1⟩,
  ⟨"h", "H", 0, 1⟩,
  ⟨"s", "S", 0, 1⟩,
  ⟨"sdg", "Sdg", 0, 1⟩,
  ⟨"t", "T", 0, 1⟩,
  ⟨"tdg", "Tdg", 0, 1⟩,
  ⟨"sx", "SX", 0, 1⟩,
  ⟨"sxdg", "SXdg", 0, 1⟩,
  ⟨"rx", "Rx", 1, 1⟩,
  ⟨"ry", "Ry", 1, 1⟩,
  ⟨"rz", "Rz", 1, 1⟩,
  ⟨"u1", "U1", 1, 1⟩,
  ⟨"p", "U1", 1, 1⟩,
  ⟨"u2", "U2", 2, 1⟩,
  ⟨"u3", "U3", 3, 1⟩,
  ⟨"u", "U3", 3, 1⟩,
  ⟨"cx", "CX", 0, 2⟩,
  ⟨"CX", "CX", 0, 2⟩,
  ⟨"cy", "CY", 0, 2⟩,
  ⟨"cz", "CZ", 0, 2⟩,
  ⟨"ch", "CH", 0, 2⟩,
  ⟨"swap", "SWAP", 0, 2⟩,
  ⟨"crx", "CRx", 1, 2⟩,
  ⟨"cry", "CRy", 1, 2⟩,
  ⟨"crz", "CRz", 1, 2⟩,
  ⟨"cu1", "CU1", 1, 2⟩,
  ⟨"cu3", "CU3", 3, 2⟩,
  ⟨"rzz", "ZZPhase", 1, 2⟩,
  ⟨"ccx", "CCX", 0, 3⟩,
  ⟨"cswap", "CSWAP", 0, 3⟩]

/-- The gate with an OpenQASM name. -/
def byName? (name : String) : Option Gate :=
  all.find? (·.name == name)

/-- The first gate with a TKET operation. -/
def byOp? (op : String) : Option Gate :=
  all.find? (·.op == op)

end Gate

/-- The operation that reads a qubit into a bit. -/
def measureOp : String := "Measure"

/-- The operation that keeps its qubits' gates in order. -/
def barrierOp : String := "Barrier"

/-- The operation that returns a qubit to its ground state. -/
def resetOp : String := "Reset"

end CircuitBench
