import CircuitBench.Json.Decoder
import CircuitBench.Json.Quoted

/-!
# The TKET document of a circuit

The serial form of a circuit lists its units one by one, each as a register name with a list of
indices, and holds every angle as a text. `Document.text` is the compact JSON of a document, and
`Document.read` the document that a JSON text holds.
-/

namespace CircuitBench.Tket

/-- A unit in serial form: `["register", [index, …]]`. -/
structure Place where
  register : String
  indices : List Nat
deriving DecidableEq, Repr

/-- An operation: its type, its parameters as texts, and the kinds of its operands. -/
structure Operation where
  type : String
  params : Option (List String)
  signature : Option (List String)
deriving DecidableEq, Repr

/-- An operation with its operands. -/
structure Instruction where
  op : Operation
  args : List Place
deriving DecidableEq, Repr

/-- A circuit in serial form. -/
structure Document where
  bits : List Place
  commands : List Instruction
  createdQubits : List Place
  discardedQubits : List Place
  /-- The unit that each unit is moved to at the end. -/
  implicitPermutation : List (Place × Place)
  phase : String
  qubits : List Place
deriving DecidableEq, Repr

/-! ### Writing -/

/-- A text as a JSON string. -/
def stringText (s : String) : List Char :=
  Json.quote s.toList

/-- Texts as a list of JSON strings. -/
def stringsText (ss : List String) : List Char :=
  Json.list (ss.map stringText)

/-- A member that is left out when it has no value. -/
def optionalMember (key : String) : Option (List Char) → List (List Char)
  | some value => [Json.member key value]
  | none => []

/-- The JSON of a unit. -/
def Place.text (p : Place) : List Char :=
  Json.list [stringText p.register, Json.list (p.indices.map Number.natText)]

/-- The JSON of units. -/
def placesText (ps : List Place) : List Char :=
  Json.list (ps.map Place.text)

/-- The JSON of a pair of units. -/
def pairText (p : Place × Place) : List Char :=
  placesText [p.1, p.2]

/-- The JSON of an operation; absent parts are left out. -/
def Operation.text (o : Operation) : List Char :=
  Json.object (Json.member "type" (stringText o.type) ::
    (optionalMember "params" (o.params.map stringsText) ++
      optionalMember "signature" (o.signature.map stringsText)))

/-- The JSON of an instruction. -/
def Instruction.text (i : Instruction) : List Char :=
  Json.object [Json.member "op" i.op.text, Json.member "args" (placesText i.args)]

/-- The compact JSON of a document. -/
def Document.text (d : Document) : List Char :=
  Json.object [
    Json.member "bits" (placesText d.bits),
    Json.member "commands" (Json.list (d.commands.map Instruction.text)),
    Json.member "created_qubits" (placesText d.createdQubits),
    Json.member "discarded_qubits" (placesText d.discardedQubits),
    Json.member "implicit_permutation" (Json.list (d.implicitPermutation.map pairText)),
    Json.member "phase" (stringText d.phase),
    Json.member "qubits" (placesText d.qubits)]

/-! ### Reading -/

/-- A unit. -/
def readPlace : Json.Reader Place := fun cs =>
  (Json.readPair Json.readText (Json.readList (Json.readNat Number.word32)) cs).map
    fun ((register, indices), rest) => (⟨register, indices⟩, rest)

/-- A list of units. -/
def readPlaces : Json.Reader (List Place) :=
  Json.readList readPlace

/-- A list of texts, or `null`. -/
def readTexts : Json.Reader (Option (List String)) :=
  Json.readOptional (Json.readList Json.readText)

/-- The members of an operation met so far. -/
structure PartialOperation where
  type : Option String := none
  params : Option (Option (List String)) := none
  signature : Option (Option (List String)) := none

/-- One more member of an operation. -/
def PartialOperation.member (o : PartialOperation) : String → Json.Reader PartialOperation
  | "type" => Json.field o.type Json.readText fun v => { o with type := some v }
  | "params" => Json.field o.params readTexts fun v => { o with params := some v }
  | "signature" => Json.field o.signature readTexts fun v => { o with signature := some v }
  | _ => Json.unknownField o

/-- The operation, if its type was given. -/
def PartialOperation.finish (o : PartialOperation) : Except Json.Fault Operation := do
  return ⟨← Json.required o.type, o.params.getD none, o.signature.getD none⟩

/-- The fields of an operation in order. -/
def readOperationFields : Json.Reader Operation := fun cs => do
  let (type, rest) ← Json.readItem true Json.readText cs
  let (params, rest) ← Json.readItemD false readTexts none rest
  let (signature, rest) ← Json.readItemD false readTexts none rest
  return (⟨type, params, signature⟩, rest)

/-- An operation. -/
def readOperation : Json.Reader Operation :=
  Json.readRecord readOperationFields {} PartialOperation.member PartialOperation.finish

/-- The members of an instruction met so far. -/
structure PartialInstruction where
  op : Option Operation := none
  args : Option (List Place) := none

/-- One more member of an instruction. -/
def PartialInstruction.member (i : PartialInstruction) : String → Json.Reader PartialInstruction
  | "op" => Json.field i.op readOperation fun v => { i with op := some v }
  | "args" => Json.field i.args readPlaces fun v => { i with args := some v }
  | _ => Json.unknownField i

/-- The instruction, if both parts were given. -/
def PartialInstruction.finish (i : PartialInstruction) : Except Json.Fault Instruction := do
  return ⟨← Json.required i.op, ← Json.required i.args⟩

/-- The fields of an instruction in order. -/
def readInstructionFields : Json.Reader Instruction := fun cs => do
  let (op, rest) ← Json.readItem true readOperation cs
  let (args, rest) ← Json.readItem false readPlaces rest
  return (⟨op, args⟩, rest)

/-- An instruction. -/
def readInstruction : Json.Reader Instruction :=
  Json.readRecord readInstructionFields {} PartialInstruction.member PartialInstruction.finish

/-- A list of instructions. -/
def readInstructions : Json.Reader (List Instruction) :=
  Json.readList readInstruction

/-- A list of pairs of units. -/
def readPermutation : Json.Reader (List (Place × Place)) :=
  Json.readList (Json.readPair readPlace readPlace)

/-- The members of a document met so far. -/
structure PartialDocument where
  bits : Option (List Place) := none
  commands : Option (List Instruction) := none
  createdQubits : Option (List Place) := none
  discardedQubits : Option (List Place) := none
  implicitPermutation : Option (List (Place × Place)) := none
  phase : Option String := none
  qubits : Option (List Place) := none

/-- One more member of a document. -/
def PartialDocument.member (d : PartialDocument) : String → Json.Reader PartialDocument
  | "bits" => Json.field d.bits readPlaces fun v => { d with bits := some v }
  | "commands" => Json.field d.commands readInstructions fun v => { d with commands := some v }
  | "created_qubits" => Json.field d.createdQubits readPlaces fun v =>
    { d with createdQubits := some v }
  | "discarded_qubits" => Json.field d.discardedQubits readPlaces fun v =>
    { d with discardedQubits := some v }
  | "implicit_permutation" => Json.field d.implicitPermutation readPermutation fun v =>
    { d with implicitPermutation := some v }
  | "phase" => Json.field d.phase Json.readText fun v => { d with phase := some v }
  | "qubits" => Json.field d.qubits readPlaces fun v => { d with qubits := some v }
  | _ => Json.unknownField d

/-- The document, if all parts were given; created and discarded qubits may be left out. -/
def PartialDocument.finish (d : PartialDocument) : Except Json.Fault Document := do
  return {
    bits := ← Json.required d.bits
    commands := ← Json.required d.commands
    createdQubits := d.createdQubits.getD []
    discardedQubits := d.discardedQubits.getD []
    implicitPermutation := ← Json.required d.implicitPermutation
    phase := ← Json.required d.phase
    qubits := ← Json.required d.qubits }

/-- The fields of a document in order. -/
def readDocumentFields : Json.Reader Document := fun cs => do
  let (bits, rest) ← Json.readItem true readPlaces cs
  let (commands, rest) ← Json.readItem false readInstructions rest
  let (createdQubits, rest) ← Json.readItemD false readPlaces [] rest
  let (discardedQubits, rest) ← Json.readItemD false readPlaces [] rest
  let (implicitPermutation, rest) ← Json.readItem false readPermutation rest
  let (phase, rest) ← Json.readItem false Json.readText rest
  let (qubits, rest) ← Json.readItem false readPlaces rest
  return (⟨bits, commands, createdQubits, discardedQubits, implicitPermutation, phase, qubits⟩,
    rest)

/-- A document. -/
def readDocument : Json.Reader Document :=
  Json.readRecord readDocumentFields {} PartialDocument.member PartialDocument.finish

/-- The document that a JSON text holds. -/
def Document.read (cs : List Char) : Except Json.Fault Document :=
  Json.readWholeText readDocument cs

end CircuitBench.Tket
