import CircuitBench.Circuit.Error
import CircuitBench.Circuit.Gate
import CircuitBench.Circuit.Qasm.Name
import CircuitBench.Number.Printing

/-!
# Writing OpenQASM 2.0

A circuit is written with a header, its registers, and one statement a line: `commandText` is the
statement of a command, `programText` the program. Angles, which a circuit holds in half-turns, are
written as multiples of `pi`. The global phase has no place in the format.
-/

namespace CircuitBench.Qasm

/-- The first lines of every program. -/
def header : List Char :=
  "OPENQASM 2.0;\ninclude \"qelib1.inc\";\n\n".toList

/-- The written form of a unit. -/
def wireText (w : Wire) : List Char :=
  w.register.toList ++ '[' :: (Number.natText w.index ++ [']'])

/-- Units with commas between them. -/
def wiresText (ws : List Wire) : List Char :=
  Text.join [','] (ws.map wireText)

/-- An angle in half-turns as a multiple of `pi`. -/
def paramText (p : Float) : List Char :=
  Number.plainText p ++ ['*', 'p', 'i']

/-- The parameters of a gate in round brackets; nothing where there are none. -/
def paramsText (params : List Float) : List Char :=
  if params.isEmpty then [] else '(' :: (Text.join [','] (params.map paramText) ++ [')'])

/-- The statement that declares a register, its name being an identifier. -/
def registerText (keyword : List Char) (r : Register) : Except CircuitError (List Char) :=
  if isIdentifier r.name.toList then
    .ok (keyword ++ ' ' :: (wireText ⟨r.name, r.size⟩ ++ [';', '\n']))
  else .error (.invalid (.badRegisterName r.name))

/-- The statement of a command, if the format has one. -/
def commandText (command : Command) : Except CircuitError (List Char) :=
  if command.op == measureOp then
    match command.args with
    | [qubit, bit] =>
      .ok ("measure ".toList ++ wireText qubit ++ " -> ".toList ++ wireText bit ++ [';'])
    | _ => .error (.invalid .measureOperands)
  else if command.op == barrierOp then
    .ok ("barrier ".toList ++ wiresText command.args ++ [';'])
  else if command.op == resetOp then
    .ok ("reset ".toList ++ wiresText command.args ++ [';'])
  else match Gate.byOp? command.op with
    | none => .error (.notExpressible command.op)
    | some gate =>
      if command.params.length ≠ gate.params ∨ command.args.length ≠ gate.qubits then
        .error (.invalid (.arity command.op gate.params gate.qubits))
      else
        .ok (gate.name.toList ++ paramsText command.params ++
          ' ' :: (wiresText command.args ++ [';']))

/-- The statement of a command on a line of its own. -/
def commandLine (command : Command) : Except CircuitError (List Char) :=
  (commandText command).map (· ++ ['\n'])

/-- The program of a circuit. -/
def programText (c : Circuit) : Except CircuitError (List Char) := do
  let quantum ← c.qregs.mapM (registerText "qreg".toList)
  let classical ← c.cregs.mapM (registerText "creg".toList)
  let commands ← c.commands.mapM commandLine
  return header ++ (quantum ++ classical ++ commands).flatten

end CircuitBench.Qasm
