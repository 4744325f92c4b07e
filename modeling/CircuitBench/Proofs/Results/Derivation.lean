import Mathlib
import CircuitBench.Results.Normalize
import CircuitBench.Proofs.Results.FirstAppearance

/-!
# What the names of data sets tell

The rows are gone through with a memory of the names that were met. A name is taken apart at its
first row only, and there it may give a warning. The memory holds for each name what the grammar
tells of it and nothing else, so every row gets what it would get by itself: the invariant is
`Derivation.Covers`, kept by each row (`Derivation.Covers.addRow`) and so by all (`covers_derive`).
-/

namespace CircuitBench

/-- A derivation holds what some names tell: the memory has each of them as the grammar takes it
apart, the columns have a value for each row, and each name outside the grammar has one warning. -/
structure Derivation.Covers (grammar : DatasetGrammar) (seen : List String) (d : Derivation) :
    Prop where
  known : ∀ identifier, d.known.lookup identifier
    = if identifier ∈ seen then
        some ((grammar.extract identifier).qubits, (grammar.extract identifier).datasetType)
      else none
  warnings : d.warnings
    = (distinct seen).filterMap fun identifier => (grammar.extract identifier).warning
  qubits : d.qubits = seen.map fun identifier => .text (grammar.extract identifier).qubits
  datasetTypes : d.datasetTypes
    = seen.map fun identifier => .text (grammar.extract identifier).datasetType

/-- Before the first row no name was met. -/
lemma Derivation.covers_start (grammar : DatasetGrammar) :
    Derivation.start.Covers grammar [] := by
  constructor
  · intro identifier
    rfl
  · rfl
  · rfl
  · rfl

/-- One more row adds its name to those that were met. -/
lemma Derivation.Covers.addRow {grammar : DatasetGrammar} {seen : List String} {d : Derivation}
    (h : d.Covers grammar seen) (identifier : String) :
    (d.addRow grammar identifier).Covers grammar (seen ++ [identifier]) := by
  have hlookup := h.known identifier
  by_cases hmem : identifier ∈ seen
  · -- the memory has the name, and what it has is what the grammar tells
    have hold : insertNew (distinct seen) identifier = distinct seen :=
      if_pos (by simpa using (mem_distinct seen identifier).2 hmem)
    rw [if_pos hmem] at hlookup
    rw [Derivation.addRow, hlookup]
    constructor
    · intro other
      have hother : other ∈ seen ++ [identifier] ↔ other ∈ seen := by
        rw [List.mem_append, List.mem_singleton]
        exact or_iff_left_of_imp fun heq => heq ▸ hmem
      simp only [h.known other, hother]
    · rw [distinct_concat, hold]
      exact h.warnings
    · rw [h.qubits, List.map_append, List.map_singleton]
    · rw [h.datasetTypes, List.map_append, List.map_singleton]
  · -- the name is new: it is taken apart and remembered
    have hnew : insertNew (distinct seen) identifier = distinct seen ++ [identifier] :=
      if_neg (by simpa using mt (mem_distinct seen identifier).1 hmem)
    rw [if_neg hmem] at hlookup
    rw [Derivation.addRow, hlookup]
    constructor
    · intro other
      by_cases heq : other = identifier
      · subst heq
        simp
      · have hne : (other == identifier) = false := beq_eq_false_iff_ne.2 heq
        have hother : other ∈ seen ++ [identifier] ↔ other ∈ seen := by
          rw [List.mem_append, List.mem_singleton, or_iff_left heq]
        simp only [List.lookup, hne, h.known other, hother]
    · rw [distinct_concat, hnew, List.filterMap_append, ← h.warnings]
      cases hwarning : (grammar.extract identifier).warning <;> simp [hwarning]
    · rw [h.qubits, List.map_append, List.map_singleton]
    · rw [h.datasetTypes, List.map_append, List.map_singleton]

/-- After all rows a derivation holds what their names tell. -/
theorem covers_derive (grammar : DatasetGrammar) (identifiers : List String) :
    (derive grammar identifiers).Covers grammar identifiers := by
  induction identifiers using List.reverseRecOn with
  | nil => exact Derivation.covers_start grammar
  | append_singleton seen identifier ih =>
    rw [derive, List.foldl_append]
    exact ih.addRow identifier

end CircuitBench
