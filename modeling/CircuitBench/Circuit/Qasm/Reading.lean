import CircuitBench.Circuit.Error
import CircuitBench.Circuit.Gate
import CircuitBench.Circuit.Qasm.Statement
import CircuitBench.Circuit.Qasm.Name

/-!
# Reading OpenQASM 2.0

A program is read statement by statement. Each statement extends the circuit read so far
(`addStatement`) or ends the reading with a fault, so the first fault from the left is the one that
`readProgram` reports. Operands are the units that `resolve` finds among the registers declared by
then.
-/

namespace CircuitBench.Qasm

/-- What a statement may yield: a fault at the statement's line, or a result. -/
abbrev AtLine (α : Type) : Type := Except CircuitError α

/-- A fault inside the statement that starts on a line. -/
def fault {α : Type} (line : Nat) (cause : StatementFault) : AtLine α :=
  .error (.statement line cause)

/-- The unit that an operand names. -/
def resolve (c : Circuit) (line : Nat) (kind : UnitKind) (operand : List Char) : AtLine Wire :=
  let text := Text.trim operand
  match readIndexed? text with
  | none => fault line (.malformedArgument (String.ofList text))
  | some (nameChars, index?) =>
    let name := String.ofList nameChars
    match findRegister? (c.registers kind) name with
    | none => fault line (.undeclaredRegister name)
    | some register =>
      match index? with
      | none => .error (.unsupported line s!"register broadcast '{name}'")
      | some digits =>
        match Number.readNat? Number.word32 digits with
        | none => fault line (.unreadableIndex (String.ofList text))
        | some index =>
          if index < register.size then .ok ⟨name, index⟩
          else fault line (.indexBeyondSize index name register.size)

/-- The qubits that a list of operands names; the list is not empty. -/
def resolveQubits (c : Circuit) (line : Nat) (operands : List Char) : AtLine (List Wire) :=
  let text := Text.trim operands
  if text.isEmpty then fault line .noQubits
  else (Text.splitOnChar ',' text).mapM (resolve c line .qubit)

/-- A circuit with a declared register. Names are not used twice, and the units of each kind stay
within the limit. -/
def addRegister (c : Circuit) (line : Nat) (kind : UnitKind) (keyword text : List Char) :
    AtLine Circuit :=
  match readDeclaration? (text.drop keyword.length) with
  | none => fault line (.malformedRegister (String.ofList text))
  | some (nameChars, digits) =>
    let name := String.ofList nameChars
    match Number.readNat? Number.word32 digits with
    | none => fault line (.sizeOutOfRange (String.ofList digits))
    | some size =>
      if (c.qreg? name).isSome || (c.creg? name).isSome then fault line (.declaredTwice name)
      else
        let extended := c.declare ⟨name, size⟩ kind
        let total := unitCount (extended.registers kind)
        if unitLimit < total then fault line (.tooManyUnits total) else .ok extended

/-- One parameter of a gate, from radians to half-turns. -/
def readParam (line : Nat) (text : List Char) : AtLine Float :=
  match evaluate text with
  | .ok radians => .ok (radians / Number.pi)
  | .error cause => fault line (.badParameter (String.ofList (Text.trim text)) cause)

/-- The parameters of a gate; none for a blank list. -/
def readParams (line : Nat) : Option (List Char) → AtLine (List Float)
  | none => .ok []
  | some list =>
    if (Text.trim list).isEmpty then .ok []
    else (Text.splitOnChar ',' list).mapM (readParam line)

/-- The first unit that also stands earlier in a list. -/
def firstRepeated? (seen : List Wire) : List Wire → Option Wire
  | [] => none
  | w :: rest => if seen.contains w then some w else firstRepeated? (seen ++ [w]) rest

/-- The command of a gate application: a known gate with its numbers of parameters and of pairwise
distinct qubits. -/
def readGate (c : Circuit) (line : Nat) (text : List Char) : AtLine Command :=
  match readApplication? text with
  | none => fault line (.malformedStatement (String.ofList text))
  | some application =>
    let name := String.ofList application.gate
    match Gate.byName? name with
    | none => .error (.unknownGate line name)
    | some gate => do
      let params ← readParams line application.params
      if params.length ≠ gate.params then
        fault line (.parameterCount name gate.params params.length)
      else
        let args ← resolveQubits c line application.operands
        if args.length ≠ gate.qubits then fault line (.qubitCount name gate.qubits args.length)
        else match firstRepeated? [] args with
          | some qubit => fault line (.repeatedQubit qubit name)
          | none => return ⟨gate.op, params, args⟩

/-- The command of a measurement, a qubit and a bit with an arrow between them. -/
def readMeasure (c : Circuit) (line : Nat) (operands : List Char) : AtLine Command :=
  match Text.splitAt? ['-', '>'] (Text.trim operands) with
  | none => fault line .expectedArrow
  | some (qubitText, bitText) => do
    let qubit ← resolve c line .qubit qubitText
    let bit ← resolve c line .bit bitText
    return ⟨measureOp, [], [qubit, bit]⟩

/-- The keywords of statements that are recognised but not supported. -/
def isUnsupportedKeyword (keyword : String) : Bool :=
  keyword == "gate" || keyword == "opaque" || keyword == "if"

/-- The check of a version header, which may only come first and names version 2. -/
def checkHeader (line position : Nat) (versionText : List Char) : AtLine Unit :=
  let version := Text.trim versionText
  if position ≠ 0 then fault line .headerNotFirst
  else if version.head? = some '2' then .ok ()
  else .error (.unsupported line ("OPENQASM " ++ String.ofList version))

/-- A circuit extended by the statement at a position among all statements. -/
def addStatement (c : Circuit) (position : Nat) (s : Statement) : AtLine Circuit :=
  let word := firstWord s.text
  let keyword := String.ofList word
  let operands := s.text.drop word.length
  if !s.terminated && !isUnsupportedKeyword keyword then
    fault s.line (.missingSemicolon (String.ofList s.text))
  else match keyword with
    | "OPENQASM" => (checkHeader s.line position operands).map fun _ => c
    | "include" => .ok c
    | "qreg" => addRegister c s.line .qubit word s.text
    | "creg" => addRegister c s.line .bit word s.text
    | "measure" => (readMeasure c s.line operands).map c.push
    | "barrier" => (resolveQubits c s.line operands).map fun qubits =>
      c.push ⟨barrierOp, [], qubits⟩
    | "reset" => do
      let qubits ← resolveQubits c s.line operands
      if qubits.length ≠ 1 then fault s.line .resetArity else return c.push ⟨resetOp, [], qubits⟩
    | _ =>
      if isUnsupportedKeyword keyword then .error (.unsupported s.line keyword)
      else (readGate c s.line s.text).map c.push

/-- A circuit extended by statements, the first of them at the given position. -/
def addStatements (c : Circuit) (position : Nat) : List Statement → AtLine Circuit
  | [] => .ok c
  | s :: rest => do
    let extended ← addStatement c position s
    addStatements extended (position + 1) rest

/-- The circuit of a program text. -/
def readProgram (source : List Char) : AtLine Circuit :=
  addStatements .empty 0 (statements source)

end CircuitBench.Qasm
