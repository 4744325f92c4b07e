import Mathlib
import CircuitBench.Dataset.Grammar
import CircuitBench.Proofs.Number.WholeNumbers
import CircuitBench.Proofs.Results.KeyOrder
import CircuitBench.Proofs.Text.ByteOrder

/-!
# What sorting makes of keys

A key of digits denotes a number of any size (`keyNumeral`), but keys are compared as numbers below
`2 ^ 64`. If each key is one, keys are sorted by number, otherwise by their bytes
(`sortsKeys_sortKeys`). Digits of a larger number are no exception: they make all keys be sorted by
bytes, which is the order of the numbers only when no key of a larger number comes first by its
bytes. `not_forall_sorted_by_number` has keys of digits that are not in the order of their numbers.
-/

namespace CircuitBench

/-- A key of digits, with a plus sign in front or without one. -/
def IsNumeral (key : String) : Prop :=
  Number.isDigits (Number.unsigned key.toList) = true

instance (key : String) : Decidable (IsNumeral key) :=
  inferInstanceAs (Decidable (_ = true))

/-- The number that a key of digits denotes, however many there are. -/
def keyNumeral (key : String) : Nat :=
  Number.digitsValue (Number.unsigned key.toList)

/-- The order of keys by their bytes. -/
def bytesLe (a b : String) : Prop :=
  Utf8.encode a.toList ≤ Utf8.encode b.toList

/-- The keys that are compared as numbers are those of digits with a number below `2 ^ 64`. -/
lemma keyNumber?_eq_ite (key : String) : keyNumber? key =
    if IsNumeral key ∧ keyNumeral key < 2 ^ 64 then some (keyNumeral key) else none := by
  rw [keyNumber?, Number.readNat?_eq_ite, Number.word64_eq]
  rfl

/-- A key is compared as a number when it has digits of one below `2 ^ 64`. -/
lemma isSome_keyNumber?_iff (key : String) :
    (keyNumber? key).isSome ↔ IsNumeral key ∧ keyNumeral key < 2 ^ 64 := by
  rw [keyNumber?_eq_ite]
  split_ifs with h
  · simpa using h
  · simpa using h

section Sorting

variable {keys : List String}

/-- Keys that are compared as numbers come in the order of their numbers. -/
lemma pairwise_sortKeys_of_numbers (h : ∀ k ∈ keys, IsNumeral k ∧ keyNumeral k < 2 ^ 64) :
    (sortKeys keys).Pairwise fun a b => keyNumeral a ≤ keyNumeral b := by
  have hvalue : ∀ k ∈ sortKeys keys, (keyNumber? k).getD 0 = keyNumeral k := by
    intro k hk
    rw [keyNumber?_eq_ite, if_pos (h k ((sortKeys_perm keys).mem_iff.1 hk)), Option.getD_some]
  have hsorted : (sortKeys keys).Pairwise fun a b => numberLe a b := by
    rw [sortKeys_of_numbers fun k hk => (isSome_keyNumber?_iff k).2 (h k hk)]
    exact List.pairwise_mergeSort numberLe_trans numberLe_total keys
  refine hsorted.imp_of_mem fun {a b} ha hb hab => ?_
  rw [numberLe, decide_eq_true_eq, hvalue a ha, hvalue b hb] at hab
  exact hab

/-- Texts come in the order of texts when they are sorted as such. -/
lemma pairwise_mergeSort_texts (keys : List String) :
    (keys.mergeSort fun a b => decide (a ≤ b)).Pairwise fun a b => decide (a ≤ b) := by
  refine List.pairwise_mergeSort (fun a b c => ?_) (fun a b => ?_) keys
  · simpa using le_trans
  · simpa using le_total a b

/-- A key that is not compared as a number puts all keys in the order of their bytes. -/
lemma pairwise_sortKeys_of_other (h : ∃ k ∈ keys, ¬ (IsNumeral k ∧ keyNumeral k < 2 ^ 64)) :
    (sortKeys keys).Pairwise bytesLe := by
  obtain ⟨k, hk, hother⟩ := h
  have hnot : ¬ ∀ k ∈ keys, (keyNumber? k).isSome := fun hall =>
    hother ((isSome_keyNumber?_iff k).1 (hall k hk))
  rw [sortKeys_of_not_numbers hnot]
  exact (pairwise_mergeSort_texts keys).imp fun hab => Utf8.encode_le_iff.2 (of_decide_eq_true hab)

/-- Sorted keys stay as they are. -/
lemma sortKeys_sortKeys (keys : List String) : sortKeys (sortKeys keys) = sortKeys keys := by
  have hiff : (∀ k ∈ sortKeys keys, (keyNumber? k).isSome) ↔ ∀ k ∈ keys, (keyNumber? k).isSome := by
    simp only [(sortKeys_perm keys).mem_iff]
  by_cases hnumbers : ∀ k ∈ keys, (keyNumber? k).isSome
  · rw [sortKeys_of_numbers (hiff.2 hnumbers), sortKeys_of_numbers hnumbers]
    exact List.mergeSort_of_pairwise (List.pairwise_mergeSort numberLe_trans numberLe_total keys)
  · rw [sortKeys_of_not_numbers (mt hiff.1 hnumbers), sortKeys_of_not_numbers hnumbers]
    exact List.mergeSort_of_pairwise (pairwise_mergeSort_texts keys)

/-- Keys in the order of their bytes are in the order of their numbers when the smaller of two
numbers has the smaller bytes. -/
lemma pairwise_keyNumeral_iff {sorted : List String} (hsorted : sorted.Pairwise bytesLe) :
    sorted.Pairwise (fun a b => keyNumeral a ≤ keyNumeral b) ↔
      ∀ a ∈ sorted, ∀ b ∈ sorted, keyNumeral a < keyNumeral b → bytesLe a b := by
  constructor
  · intro hnumbers a ha b hb hlt
    obtain ⟨i, hi, rfl⟩ := List.getElem_of_mem ha
    obtain ⟨j, hj, rfl⟩ := List.getElem_of_mem hb
    -- the larger number does not come first, so the smaller one has the smaller bytes
    obtain hij | rfl | hji := Nat.lt_trichotomy i j
    · exact List.pairwise_iff_getElem.1 hsorted i j hi hj hij
    · exact absurd hlt (lt_irrefl _)
    · exact absurd (List.pairwise_iff_getElem.1 hnumbers j i hj hi hji) (Nat.not_le.2 hlt)
  · intro h
    refine hsorted.imp_of_mem fun {a b} ha hb hab => ?_
    by_contra hlt
    have hba := h b hb a ha (Nat.not_le.1 hlt)
    obtain rfl := (Utf8.encode_le_iff.1 hab).antisymm (Utf8.encode_le_iff.1 hba)
    exact hlt le_rfl

/-- Keys of digits are in the order of their numbers when all of them are compared as numbers, or
when the smaller of two numbers has the smaller bytes. -/
lemma pairwise_sortKeys_iff (h : ∀ k ∈ keys, IsNumeral k) :
    (sortKeys keys).Pairwise (fun a b => keyNumeral a ≤ keyNumeral b) ↔
      (∀ k ∈ keys, keyNumeral k < 2 ^ 64) ∨
        ∀ a ∈ keys, ∀ b ∈ keys, keyNumeral a < keyNumeral b → bytesLe a b := by
  by_cases hsmall : ∀ k ∈ keys, keyNumeral k < 2 ^ 64
  · exact iff_of_true (pairwise_sortKeys_of_numbers fun k hk => ⟨h k hk, hsmall k hk⟩)
      (Or.inl hsmall)
  · have hother : ∃ k ∈ keys, ¬ (IsNumeral k ∧ keyNumeral k < 2 ^ 64) := by
      push Not at hsmall
      obtain ⟨k, hk, hle⟩ := hsmall
      exact ⟨k, hk, fun hnumber => absurd hnumber.2 (Nat.not_lt.2 hle)⟩
    rw [or_iff_right hsmall, pairwise_keyNumeral_iff (pairwise_sortKeys_of_other hother)]
    simp only [(sortKeys_perm keys).mem_iff]

end Sorting

/-- What sorting makes of keys. -/
structure SortsKeys (keys sorted : List String) : Prop where
  /-- No key is lost or comes in. -/
  perm : sorted.Perm keys
  /-- Keys of digits with numbers below `2 ^ 64` come in the order of their numbers. -/
  byNumber : (∀ k ∈ keys, IsNumeral k ∧ keyNumeral k < 2 ^ 64) →
    sorted.Pairwise fun a b => keyNumeral a ≤ keyNumeral b
  /-- If there is any other key, all come in the order of their bytes. -/
  byBytes : (∃ k ∈ keys, ¬ (IsNumeral k ∧ keyNumeral k < 2 ^ 64)) → sorted.Pairwise bytesLe
  /-- Keys of digits of any length come in the order of their numbers exactly when these are all
  below `2 ^ 64`, or when the smaller of two numbers has the smaller bytes. -/
  byNumber_iff : (∀ k ∈ keys, IsNumeral k) →
    (sorted.Pairwise (fun a b => keyNumeral a ≤ keyNumeral b) ↔
      (∀ k ∈ keys, keyNumeral k < 2 ^ 64) ∨
        ∀ a ∈ keys, ∀ b ∈ keys, keyNumeral a < keyNumeral b → bytesLe a b)
  /-- To sort them again changes nothing. -/
  sortKeys_eq : sortKeys sorted = sorted

/-- Sorting puts keys in the order of their numbers or of their bytes, and digits that are too long
in that of their bytes. -/
theorem sortsKeys_sortKeys (keys : List String) : SortsKeys keys (sortKeys keys) where
  perm := sortKeys_perm keys
  byNumber := pairwise_sortKeys_of_numbers
  byBytes := pairwise_sortKeys_of_other
  byNumber_iff := pairwise_sortKeys_iff
  sortKeys_eq := sortKeys_sortKeys keys

/-- A number of qubits beyond `2 ^ 64`, and one that is smaller. -/
def longKeys : List String := ["18446744073709551616", "2"]

/-- Names of data sets give both keys, and they are sorted by bytes although both are digits. -/
theorem not_forall_sorted_by_number :
    longKeys = ["18446744073709551616_5-random", "2_6-random"].map
      (fun name => (DatasetGrammar.qubitsGatesType.extract name).qubits) ∧
    sortKeys longKeys = longKeys ∧
    ¬ ∀ keys : List String, (∀ k ∈ keys, Number.isDigits k.toList = true) →
      (sortKeys keys).Pairwise fun a b =>
        Number.digitsValue a.toList ≤ Number.digitsValue b.toList := by
  have hsorted : sortKeys longKeys = longKeys := by
    rw [sortKeys_of_not_numbers (by decide +kernel)]
    exact List.mergeSort_of_pairwise (by decide +kernel)
  refine ⟨by decide +kernel, hsorted, fun h => ?_⟩
  have hnumbers := h longKeys (by decide +kernel)
  rw [hsorted] at hnumbers
  exact absurd hnumbers (by decide +kernel)

end CircuitBench
