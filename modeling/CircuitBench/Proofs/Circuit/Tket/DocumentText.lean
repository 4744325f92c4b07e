import CircuitBench.Circuit.Tket.Document
import CircuitBench.Proofs.Json.Values

/-!
# Written documents are read back

The compact JSON of a TKET document is read as the document (`Document.read_text`), whatever texts
are in it, as long as its indices fit into the integers of the format (`Document.Representable`).
-/

namespace CircuitBench.Tket

open Json

/-- The indices of a unit fit into the integers of the format. -/
def Place.Representable (p : Place) : Prop :=
  ∀ index ∈ p.indices, index < Number.word32

/-- The operands of an instruction are representable. -/
def Instruction.Representable (i : Instruction) : Prop :=
  ∀ p ∈ i.args, p.Representable

/-- All units of a document are representable. -/
structure Document.Representable (d : Document) : Prop where
  bits : ∀ p ∈ d.bits, p.Representable
  commands : ∀ i ∈ d.commands, i.Representable
  createdQubits : ∀ p ∈ d.createdQubits, p.Representable
  discardedQubits : ∀ p ∈ d.discardedQubits, p.Representable
  implicitPermutation : ∀ p ∈ d.implicitPermutation, p.1.Representable ∧ p.2.Representable
  qubits : ∀ p ∈ d.qubits, p.Representable

/-! ### Units -/

/-- A written unit is read back. -/
lemma reads_place {p : Place} (h : p.Representable) : Reads readPlace p.text p := by
  have hindices : Reads (readList (readNat Number.word32))
      (list (p.indices.map Number.natText)) p.indices :=
    reads_list fun index hindex => reads_nat (h index hindex) (by decide)
  have hpair := reads_pair (reads_text p.register) hindices
  refine ⟨hpair.starts, fun rest hrest => ?_⟩
  have hread := hpair.reads rest hrest
  unfold readPlace Place.text stringText
  rw [hread]
  rfl

/-- Written units are read back. -/
lemma reads_places {ps : List Place} (h : ∀ p ∈ ps, p.Representable) :
    Reads readPlaces (placesText ps) ps :=
  reads_list fun p hp => reads_place (h p hp)

/-- Written pairs of units are read back. -/
lemma reads_permutation {ps : List (Place × Place)}
    (h : ∀ p ∈ ps, p.1.Representable ∧ p.2.Representable) :
    Reads readPermutation (list (ps.map pairText)) ps :=
  reads_list fun p hp => reads_pair (reads_place (h p hp).1) (reads_place (h p hp).2)

/-! ### Operations and instructions -/

/-- Written texts are read back, and not taken for `null`. -/
lemma reads_texts (ss : List String) : Reads readTexts (stringsText ss) (some ss) := by
  have hlist : Reads (readList readText) (stringsText ss) ss := reads_list fun s _ => reads_text s
  refine ⟨hlist.starts, fun rest hrest => ?_⟩
  have hread := hlist.reads rest hrest
  have hspace : skipSpace (stringsText ss ++ rest) = stringsText ss ++ rest :=
    skipSpace_cons (by decide) _
  unfold readTexts readOptional
  rw [hspace, hread]
  rfl

/-- The member of an operation that is left out when it has no value. -/
def optional (key : String) (values : Option (List String)) : List (String × List Char) :=
  (values.map fun ss => (key, stringsText ss)).toList

/-- An optional member is written, or not. -/
lemma optionalMember_eq (key : String) (values : Option (List String)) :
    optionalMember key (values.map stringsText) = (optional key values).map memberText := by
  cases values <;> rfl

/-- A written operation is read back. -/
lemma reads_operation (o : Operation) : Reads readOperation o.text o := by
  have htext : o.text = object ((("type", stringText o.type) ::
      (optional "params" o.params ++ optional "signature" o.signature)).map memberText) := by
    rw [Operation.text, optionalMember_eq, optionalMember_eq, List.map_cons, List.map_append]
    rfl
  have hmembers : MembersRead PartialOperation.member {} (("type", stringText o.type) ::
      (optional "params" o.params ++ optional "signature" o.signature))
      ⟨some o.type, o.params.map some, o.signature.map some⟩ := by
    refine .field (by rw [PartialOperation.member]) (reads_text o.type) ?_
    -- the optional members are there or not, independently of each other
    rcases o with ⟨type, _ | params, _ | signature⟩
    · exact .nil _
    · exact .field (by rw [PartialOperation.member]) (reads_texts signature) (.nil _)
    · exact .field (by rw [PartialOperation.member]) (reads_texts params) (.nil _)
    · exact .field (by rw [PartialOperation.member]) (reads_texts params)
        (.field (by rw [PartialOperation.member]) (reads_texts signature) (.nil _))
  have hfinish : PartialOperation.finish ⟨some o.type, o.params.map some, o.signature.map some⟩ =
      .ok o := by
    rcases o with ⟨type, _ | params, _ | signature⟩ <;> rfl
  rw [htext]
  exact reads_record hmembers hfinish

/-- A written instruction is read back. -/
lemma reads_instruction {i : Instruction} (h : i.Representable) :
    Reads readInstruction i.text i := by
  have hmembers : MembersRead PartialInstruction.member {}
      [("op", i.op.text), ("args", placesText i.args)] ⟨some i.op, some i.args⟩ := by
    refine .field (by rw [PartialInstruction.member]) (reads_operation i.op) ?_
    exact .field (by rw [PartialInstruction.member]) (reads_places h) (.nil _)
  exact reads_record hmembers rfl

/-! ### Documents -/

/-- A written document is read back. -/
lemma reads_document {d : Document} (h : d.Representable) : Reads readDocument d.text d := by
  have hcommands : Reads readInstructions (list (d.commands.map Instruction.text)) d.commands :=
    reads_list fun i hi => reads_instruction (h.commands i hi)
  have hmembers : MembersRead PartialDocument.member {}
      [("bits", placesText d.bits),
        ("commands", list (d.commands.map Instruction.text)),
        ("created_qubits", placesText d.createdQubits),
        ("discarded_qubits", placesText d.discardedQubits),
        ("implicit_permutation", list (d.implicitPermutation.map pairText)),
        ("phase", stringText d.phase),
        ("qubits", placesText d.qubits)]
      ⟨some d.bits, some d.commands, some d.createdQubits, some d.discardedQubits,
        some d.implicitPermutation, some d.phase, some d.qubits⟩ := by
    refine .field (by rw [PartialDocument.member]) (reads_places h.bits) ?_
    refine .field (by rw [PartialDocument.member]) hcommands ?_
    refine .field (by rw [PartialDocument.member]) (reads_places h.createdQubits) ?_
    refine .field (by rw [PartialDocument.member]) (reads_places h.discardedQubits) ?_
    refine .field (by rw [PartialDocument.member]) (reads_permutation h.implicitPermutation) ?_
    refine .field (by rw [PartialDocument.member]) (reads_text d.phase) ?_
    exact .field (by rw [PartialDocument.member]) (reads_places h.qubits) (.nil _)
  exact reads_record hmembers rfl

/-- The text of a document is read as the document. -/
lemma Document.read_text {d : Document} (h : d.Representable) : Document.read d.text = .ok d := by
  have hread := (reads_document h).reads [] (Text.stops_nil _)
  rw [List.append_nil] at hread
  unfold Document.read readWholeText
  rw [hread]
  rfl

end CircuitBench.Tket
