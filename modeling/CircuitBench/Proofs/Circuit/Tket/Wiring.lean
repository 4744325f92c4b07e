import CircuitBench.Proofs.Circuit.Tket.Programs

/-!
# The wiring of documents

At the end of a TKET document stands a permutation, which says where each unit is moved to after the
commands. A circuit has no place for it. The permutation of a document that is read has to be there
and is not looked at (`readCircuit_eq_of_permutation`), and the one that is written leaves every
unit in place: the moves of a document are lost on the way through a circuit, and no fault tells so
(`moves_of_readCircuit`). A document that two qubits are swapped in loses the swap
(`swappedDocument_straightened`).
-/

namespace CircuitBench.Tket

/-- The pairs of a permutation that move a unit to another place. -/
def Document.moves (d : Document) : List (Place × Place) :=
  d.implicitPermutation.filter fun p => p.1 ≠ p.2

/-- A document moves nothing when every pair has one unit twice. -/
lemma Document.moves_eq_nil_iff {d : Document} :
    d.moves = [] ↔ ∀ p ∈ d.implicitPermutation, p.1 = p.2 := by
  simp [Document.moves, List.filter_eq_nil_iff]

/-- The document of a circuit leaves every unit in place. -/
lemma moves_ofCircuit (c : Circuit) : (Document.ofCircuit c).moves = [] := by
  rw [Document.moves_eq_nil_iff]
  intro p hp
  obtain ⟨q, -, rfl⟩ := List.mem_map.1 hp
  rfl

/-- The circuit of a text is that of the text's document. -/
lemma readCircuit_eq_of_read {cs : List Char} {d : Document} (h : Document.read cs = .ok d) :
    readCircuit cs = d.toCircuit.mapError .invalid := by
  rw [readCircuit, h]
  dsimp only
  cases d.toCircuit <;> rfl

/-- Two texts whose documents differ in nothing but the permutation hold the same circuit, or are
refused for the same fault. -/
lemma readCircuit_eq_of_permutation {cs twin : List Char} {d : Document}
    {permutation : List (Place × Place)} (h : Document.read cs = .ok d)
    (htwin : Document.read twin = .ok { d with implicitPermutation := permutation }) :
    readCircuit twin = readCircuit cs := by
  rw [readCircuit_eq_of_read h, readCircuit_eq_of_read htwin]
  rfl

/-- The document of a circuit that is read from a document can be read again: the indices of its
units fit into the integers of the format. -/
lemma read_circuitText_of_readCircuit {cs : List Char} {c : Circuit} (h : readCircuit cs = .ok c) :
    Document.read (circuitText c) = .ok (Document.ofCircuit c) := by
  obtain ⟨hqubits, hbits, hdeclared⟩ := of_readCircuit_eq_ok h
  exact Document.read_text (representable_of_index_lt hqubits hbits fun command hcommand w hw =>
    index_lt_of_isDeclared hqubits hbits (hdeclared command hcommand w hw))

/-- A document that is read as a circuit is read as the same circuit under any other permutation.
The document that is written for the circuit moves nothing, so the moves are kept exactly when there
were none. -/
theorem moves_of_readCircuit {cs : List Char} {d : Document} {c : Circuit}
    (hread : Document.read cs = .ok d) (hcircuit : readCircuit cs = .ok c) :
    (∀ (twin : List Char) (permutation : List (Place × Place)),
      Document.read twin = .ok { d with implicitPermutation := permutation } →
        readCircuit twin = .ok c) ∧
    ∃ e, Document.read (circuitText c) = .ok e ∧ e.moves = [] ∧
      (e.moves = d.moves ↔ ∀ p ∈ d.implicitPermutation, p.1 = p.2) := by
  constructor
  · intro twin permutation htwin
    rw [readCircuit_eq_of_permutation hread htwin, hcircuit]
  · refine ⟨_, read_circuitText_of_readCircuit hcircuit, moves_ofCircuit c, ?_⟩
    rw [moves_ofCircuit, ← Document.moves_eq_nil_iff, eq_comm]

/-- The two qubits of the swapped document. -/
def swappedPlaces : Place × Place :=
  (⟨"q", [0]⟩, ⟨"q", [1]⟩)

/-- A document that flips the first of two qubits and then swaps both. -/
def swappedDocument : Document where
  bits := []
  commands := [⟨⟨"X", none, none⟩, [swappedPlaces.1]⟩]
  createdQubits := []
  discardedQubits := []
  implicitPermutation := [swappedPlaces, swappedPlaces.swap]
  phase := "0.0"
  qubits := [swappedPlaces.1, swappedPlaces.2]

/-- The same document without the swap. -/
def straightDocument : Document :=
  { swappedDocument with
    implicitPermutation :=
      [(swappedPlaces.1, swappedPlaces.1), (swappedPlaces.2, swappedPlaces.2)] }

/-- The circuit of either document. -/
def flippedCircuit : Circuit :=
  ⟨[⟨"q", 2⟩], [], [⟨"X", [], [⟨"q", 0⟩]⟩], 0⟩

/-- The moves of the swapped document are lost. -/
theorem moves_of_readCircuit_swappedDocument :
    (Document.read swappedDocument.text = .ok swappedDocument ∧
      readCircuit swappedDocument.text = .ok flippedCircuit) ∧
    (∀ (twin : List Char) (permutation : List (Place × Place)),
      Document.read twin = .ok { swappedDocument with implicitPermutation := permutation } →
        readCircuit twin = .ok flippedCircuit) ∧
    ∃ e, Document.read (circuitText flippedCircuit) = .ok e ∧ e.moves = [] ∧
      (e.moves = swappedDocument.moves ↔ ∀ p ∈ swappedDocument.implicitPermutation, p.1 = p.2) := by
  have hread : Document.read swappedDocument.text = .ok swappedDocument := by decide +kernel
  have hcircuit : readCircuit swappedDocument.text = .ok flippedCircuit := by decide +kernel
  exact ⟨⟨hread, hcircuit⟩, moves_of_readCircuit hread hcircuit⟩

/-- The swapped document is accepted although it moves units, as the same circuit as the document
without the swap, and what is written for this circuit is the latter. -/
theorem swappedDocument_straightened :
    Document.read swappedDocument.text = .ok swappedDocument ∧ swappedDocument.moves ≠ [] ∧
      readCircuit swappedDocument.text = .ok flippedCircuit ∧
      readCircuit straightDocument.text = .ok flippedCircuit ∧
      Document.read (circuitText flippedCircuit) = .ok straightDocument := by
  decide +kernel

end CircuitBench.Tket
