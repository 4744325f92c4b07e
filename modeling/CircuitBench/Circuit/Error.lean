import CircuitBench.Circuit.Expression
import CircuitBench.Circuit.Basic
import CircuitBench.Json.Token

/-!
# Faults of circuit texts

Everything that can be wrong with a circuit text or with a circuit that is to be written, by cause:
a `StatementFault` inside an OpenQASM statement, a `CircuitFault` of a circuit as such. A
`CircuitError` has the fault with its place. The wording is given in one place for each kind of
cause.
-/

namespace CircuitBench

/-- What can be wrong inside an OpenQASM statement. -/
inductive StatementFault where
  | missingSemicolon (text : String)
  | headerNotFirst
  | malformedRegister (text : String)
  | sizeOutOfRange (digits : String)
  | declaredTwice (name : String)
  | tooManyUnits (total : Nat)
  | expectedArrow
  | noQubits
  | resetArity
  | malformedArgument (text : String)
  | undeclaredRegister (name : String)
  | unreadableIndex (text : String)
  | indexBeyondSize (index : Nat) (name : String) (size : Nat)
  | malformedStatement (text : String)
  | badParameter (text : String) (cause : ExpressionError)
  | parameterCount (gate : String) (expected actual : Nat)
  | qubitCount (gate : String) (expected actual : Nat)
  | repeatedQubit (qubit : Wire) (gate : String)
deriving DecidableEq, Repr

/-- What can be wrong with a circuit, whatever text it came from. -/
inductive CircuitFault where
  | tooManyUnits (total : Nat)
  | badRegisterName (name : String)
  | measureOperands
  | arity (op : String) (params qubits : Nat)
  | indexCount (register : String) (count : Nat)
  | beyondLimit (unit : Wire)
  | badParameter (text : String) (cause : ExpressionError)
  | undeclaredUnit (op : String) (unit : Wire)
deriving DecidableEq, Repr

/-- A fault of a circuit text or of a circuit that is to be written. -/
inductive CircuitError where
  | statement (line : Nat) (fault : StatementFault)
  | unsupported (line : Nat) (construct : String)
  | unknownGate (line : Nat) (name : String)
  | notExpressible (op : String)
  | invalid (fault : CircuitFault)
  | json (fault : Json.Fault)
deriving DecidableEq, Repr

/-- The wording of a fault of a circuit. -/
def CircuitFault.message : CircuitFault → String
  | .tooManyUnits total => s!"{total} units declared, at most {unitLimit} supported"
  | .badRegisterName name => s!"register name '{name}' is not a valid identifier"
  | .measureOperands => "Measure needs a qubit and a bit"
  | .arity op params qubits => s!"{op} expects {params} parameters and {qubits} qubits"
  | .indexCount register count => s!"unit '{register}' has {count} indices, expected one"
  | .beyondLimit unit => s!"unit {unit.text} exceeds the {unitLimit} unit limit"
  | .badParameter text cause => s!"parameter '{text}': {cause.message}"
  | .undeclaredUnit op unit => s!"command {op} uses undeclared unit {unit.text}"

/-- The wording of a fault of a statement. -/
def StatementFault.message : StatementFault → String
  | .missingSemicolon text => s!"missing ';' after '{text}'"
  | .headerNotFirst => "OPENQASM header must come first"
  | .malformedRegister text => s!"malformed register declaration '{text}'"
  | .sizeOutOfRange digits => s!"register size '{digits}' out of range"
  | .declaredTwice name => s!"register '{name}' declared twice"
  | .tooManyUnits total => "invalid circuit: " ++ (CircuitFault.tooManyUnits total).message
  | .expectedArrow => "expected 'measure a -> b'"
  | .noQubits => "expected at least one qubit"
  | .resetArity => "reset takes one qubit"
  | .malformedArgument text => s!"malformed argument '{text}'"
  | .undeclaredRegister name => s!"undeclared register '{name}'"
  | .unreadableIndex text => s!"index out of range in '{text}'"
  | .indexBeyondSize index name size =>
    s!"index {index} out of range for register '{name}' of size {size}"
  | .malformedStatement text => s!"malformed statement '{text}'"
  | .badParameter text cause => s!"in parameter '{text}': {cause.message}"
  | .parameterCount gate expected actual =>
    s!"gate '{gate}' takes {expected} parameters, got {actual}"
  | .qubitCount gate expected actual => s!"gate '{gate}' takes {expected} qubits, got {actual}"
  | .repeatedQubit qubit gate => s!"qubit {qubit.text} used twice in '{gate}'"

/-- The wording of a fault with its place. -/
def CircuitError.message : CircuitError → String
  | .statement line fault => s!"line {line}: {fault.message}"
  | .unsupported line construct => s!"line {line}: unsupported construct '{construct}'"
  | .unknownGate line name => s!"line {line}: unknown gate '{name}'"
  | .notExpressible op => s!"operation '{op}' has no OpenQASM 2.0 equivalent"
  | .invalid fault => s!"invalid circuit: {fault.message}"
  | .json fault => s!"JSON error: {fault.message}"

/-- Registers within the limit of units. -/
def checkUnitCount (registers : List Register) : Except CircuitFault Unit :=
  if unitLimit < unitCount registers then .error (.tooManyUnits (unitCount registers)) else .ok ()

end CircuitBench
