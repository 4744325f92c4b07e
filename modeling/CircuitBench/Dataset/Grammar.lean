import CircuitBench.Number.Digits

/-!
# Names of data sets

The name of a data set tells the number of qubits and the type of the data. Two grammars are in use:
`<qubits>_<gates>-<type>`, and the older `Voqc_<n>_<qubits>_complete_ECC_set`, which may stand
anywhere in a name and is always of type `eccs`. `DatasetGrammar.parse?` tells what a name gives
under one of them, and `DatasetGrammar.extract` falls back to the name itself.
-/

namespace CircuitBench

/-- A grammar for the names of data sets. -/
inductive DatasetGrammar where
  | qubitsGatesType
  | legacyVoqc
deriving DecidableEq, Repr

/-- A name outside the grammar in use. -/
structure GrammarWarning where
  identifier : String
  grammar : DatasetGrammar
deriving DecidableEq, Repr

/-- What a name tells: the number of qubits, the type, and a warning when it is outside the
grammar. -/
structure Extraction where
  qubits : String
  datasetType : String
  warning : Option GrammarWarning
deriving DecidableEq, Repr

/-- The grammar's name in options and messages. -/
def DatasetGrammar.name : DatasetGrammar → String
  | .qubitsGatesType => "qubits-gates-type"
  | .legacyVoqc => "legacy-voqc"

/-- The wording of a warning. -/
def GrammarWarning.message (w : GrammarWarning) : String :=
  s!"could not extract number of qubits from dataset name '{w.identifier}' ({w.grammar.name} grammar)"

namespace DatasetGrammar

/-- The digits in front of a text, at least one, and the rest. -/
def spanDigits? (cs : List Char) : Option (List Char × List Char) :=
  let digits := cs.takeWhile Char.isDigit
  if digits.isEmpty then none else some (digits, cs.dropWhile Char.isDigit)

/-- The text behind a word in front of it. -/
def dropWord? (word cs : List Char) : Option (List Char) :=
  if word.isPrefixOf cs then some (cs.drop word.length) else none

/-- Qubits and type of `<qubits>_<gates>-<type>`; the type is one line and not empty. -/
def parseQubitsGatesType? (cs : List Char) : Option (List Char × List Char) := do
  let (qubits, rest) ← spanDigits? cs
  let (_, rest) ← spanDigits? (← dropWord? ['_'] rest)
  let datasetType ← dropWord? ['-'] rest
  if datasetType.isEmpty || datasetType.contains '\n' then none else some (qubits, datasetType)

/-- The type of all data sets with older names. -/
def legacyType : List Char := "eccs".toList

/-- The qubits of `Voqc_<n>_<qubits>_complete_ECC_set` in front of a text. -/
def parseLegacyHere? (cs : List Char) : Option (List Char) := do
  let (_, rest) ← spanDigits? (← dropWord? "Voqc_".toList cs)
  let (qubits, rest) ← spanDigits? (← dropWord? ['_'] rest)
  let _ ← dropWord? "_complete_ECC_set".toList rest
  return qubits

/-- The qubits of the first place in a text where an older name stands. -/
def findLegacy? : List Char → Option (List Char)
  | [] => none
  | c :: rest => (parseLegacyHere? (c :: rest)).or (findLegacy? rest)

/-- The number of qubits and the type that a name gives under a grammar. -/
def parse? (grammar : DatasetGrammar) (cs : List Char) : Option (List Char × List Char) :=
  match grammar with
  | .qubitsGatesType => parseQubitsGatesType? cs
  | .legacyVoqc => (findLegacy? cs).map (·, legacyType)

/-- What a name tells under a grammar; a name outside it stands for both values itself. -/
def extract (grammar : DatasetGrammar) (identifier : String) : Extraction :=
  match grammar.parse? identifier.toList with
  | some (qubits, datasetType) => ⟨String.ofList qubits, String.ofList datasetType, none⟩
  | none => ⟨identifier, identifier, some ⟨identifier, grammar⟩⟩

end DatasetGrammar

end CircuitBench
