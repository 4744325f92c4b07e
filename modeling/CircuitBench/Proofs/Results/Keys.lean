import Mathlib
import CircuitBench.Proofs.Results.FirstAppearance

/-!
# The keys of groups

Values are grouped by the distinct keys that they have. Each key is listed once, whatever order the
keys are brought into (`sortKeys_perm`), so every value belongs to the group of one key, and the
groups together are as large as the list (`sum_length_filter`).
-/

namespace CircuitBench

/-- To put keys in order is to permute them. -/
lemma sortKeys_perm (keys : List String) : (sortKeys keys).Perm keys := by
  rw [sortKeys]
  split
  · exact List.mergeSort_perm _ _
  · exact List.mergeSort_perm _ _

/-- Sorted keys are the values of a list, once each. -/
lemma sortedDistinct_perm (keys : List String) : (sortedDistinct keys).Perm (distinct keys) :=
  List.mergeSort_perm _ _

/-- No key is listed twice among sorted ones. -/
lemma nodup_sortedDistinct (keys : List String) : (sortedDistinct keys).Nodup :=
  (sortedDistinct_perm keys).nodup_iff.2 (nodup_distinct keys)

/-- Every key is listed among the sorted ones. -/
lemma mem_sortedDistinct {keys : List String} {key : String} :
    key ∈ sortedDistinct keys ↔ key ∈ keys := by
  rw [(sortedDistinct_perm keys).mem_iff, mem_distinct]

/-- The values of all keys together are as many as the values, when each key is listed once. -/
lemma sum_length_filter {α β : Type} [BEq β] [LawfulBEq β] (key : α → β) (xs : List α)
    {keys : List β} (hnodup : keys.Nodup) (hmem : ∀ k, k ∈ keys ↔ k ∈ xs.map key) :
    (keys.map fun k => (xs.filter (key · == k)).length).sum = xs.length := by
  classical
  -- one test of equality is as good as another
  obtain rfl : ‹BEq β› = instBEqOfDecidableEq := lawful_beq_subsingleton _ _
  have hperm : keys.Perm (xs.map key).dedup :=
    (List.perm_ext_iff_of_nodup hnodup (List.nodup_dedup _)).2 fun k => by
      rw [hmem, List.mem_dedup]
  have hcount : ∀ k, (xs.filter (key · == k)).length = (xs.map key).count k := by
    intro k
    rw [← List.countP_eq_length_filter, List.count, List.countP_map]
    rfl
  calc (keys.map fun k => (xs.filter (key · == k)).length).sum
      = (keys.map fun k => (xs.map key).count k).sum := by simp only [hcount]
    _ = ((xs.map key).dedup.map fun k => (xs.map key).count k).sum := (hperm.map _).sum_eq
    _ = xs.length := by rw [List.sum_map_count_dedup_eq_length, List.length_map]

end CircuitBench
