import Mathlib
import CircuitBench.Proofs.Results.Keys

/-!
# The order of keys

Keys are sorted by number when all of them are numbers, and as texts otherwise. The sort is stable,
so keys that tie keep the order in which they are given. Texts never tie, but numbers do: `2` and
`02` are different keys of the same number. Without ties the sorted keys are the same whatever order
the keys had (`sortKeys_eq_of_perm`); two keys that tie are sorted in different ways, as the one or
the other of them is given first (`sortKeys_ne_of_tie`).
-/

namespace CircuitBench

/-- No two different keys are the same number, in case all keys are numbers. -/
def NoKeysTie (keys : List String) : Prop :=
  (∀ k ∈ keys, (keyNumber? k).isSome) →
    ∀ a ∈ keys, ∀ b ∈ keys, keyNumber? a = keyNumber? b → a = b

/-- The same values in another order are the same once sorted, if the order tells them apart. -/
lemma mergeSort_eq_of_perm {α : Type} {le : α → α → Bool} {xs ys : List α} (hperm : xs.Perm ys)
    (htrans : ∀ a b c, le a b → le b c → le a c) (htotal : ∀ a b, le a b || le b a)
    (hantisymm : ∀ a ∈ xs, ∀ b ∈ xs, le a b → le b a → a = b) :
    xs.mergeSort le = ys.mergeSort le := by
  have hsorted : (xs.mergeSort le).Perm (ys.mergeSort le) :=
    (List.mergeSort_perm xs le).trans (hperm.trans (List.mergeSort_perm ys le).symm)
  refine hsorted.eq_of_pairwise (fun a b ha hb => ?_) (List.pairwise_mergeSort htrans htotal xs)
    (List.pairwise_mergeSort htrans htotal ys)
  exact hantisymm a (List.mem_mergeSort.1 ha) b (hperm.mem_iff.2 (List.mem_mergeSort.1 hb))

/-- The values of a list are those of the list in another order. -/
lemma perm_distinct {α : Type} [BEq α] [LawfulBEq α] {xs ys : List α} (hperm : xs.Perm ys) :
    (distinct xs).Perm (distinct ys) := by
  refine (List.perm_ext_iff_of_nodup (nodup_distinct xs) (nodup_distinct ys)).2 fun x => ?_
  rw [mem_distinct, mem_distinct, hperm.mem_iff]

/-- The first value of a list comes first among its distinct values. -/
lemma distinct_cons {α : Type} [BEq α] [LawfulBEq α] (x : α) (xs : List α) :
    ∃ others, distinct (x :: xs) = x :: others := by
  obtain ⟨others, hothers⟩ := distinct_isPrefix [x] xs
  exact ⟨others, hothers.symm⟩

/-- The order of keys by number. -/
def numberLe (a b : String) : Bool :=
  (keyNumber? a).getD 0 ≤ (keyNumber? b).getD 0

/-- Keys that are all numbers are sorted by number. -/
lemma sortKeys_of_numbers {keys : List String} (h : ∀ k ∈ keys, (keyNumber? k).isSome) :
    sortKeys keys = keys.mergeSort numberLe := by
  rw [sortKeys, if_pos (List.all_eq_true.2 h)]
  rfl

/-- Keys that are not all numbers are sorted as texts. -/
lemma sortKeys_of_not_numbers {keys : List String} (h : ¬ ∀ k ∈ keys, (keyNumber? k).isSome) :
    sortKeys keys = keys.mergeSort fun a b => decide (a ≤ b) := by
  rw [sortKeys, if_neg fun hall => h (List.all_eq_true.1 hall)]

/-- The order by number is transitive. -/
lemma numberLe_trans (a b c : String) (hab : numberLe a b) (hbc : numberLe b c) :
    numberLe a c := by
  unfold numberLe at *
  rw [decide_eq_true_eq] at *
  exact hab.trans hbc

/-- The order by number is total. -/
lemma numberLe_total (a b : String) : numberLe a b || numberLe b a := by
  unfold numberLe
  rw [← Bool.decide_or, decide_eq_true_eq]
  exact le_total _ _

/-- Sorted keys do not depend on the order in which they are given, as long as no keys tie. -/
theorem sortKeys_eq_of_perm {keys keys' : List String} (hperm : keys.Perm keys')
    (h : NoKeysTie keys) : sortKeys keys = sortKeys keys' := by
  have hiff : (∀ k ∈ keys, (keyNumber? k).isSome) ↔ ∀ k ∈ keys', (keyNumber? k).isSome := by
    simp only [hperm.mem_iff]
  by_cases hnumbers : ∀ k ∈ keys, (keyNumber? k).isSome
  · rw [sortKeys_of_numbers hnumbers, sortKeys_of_numbers (hiff.1 hnumbers)]
    refine mergeSort_eq_of_perm hperm numberLe_trans numberLe_total fun a ha b hb hab hba => ?_
    refine h hnumbers a ha b hb ?_
    obtain ⟨m, hm⟩ := Option.isSome_iff_exists.1 (hnumbers a ha)
    obtain ⟨n, hn⟩ := Option.isSome_iff_exists.1 (hnumbers b hb)
    simp only [numberLe, hm, hn, Option.getD_some, decide_eq_true_eq] at hab hba
    rw [hm, hn, hab.antisymm hba]
  · rw [sortKeys_of_not_numbers hnumbers, sortKeys_of_not_numbers (mt hiff.2 hnumbers)]
    refine mergeSort_eq_of_perm hperm (fun a b c => ?_) (fun a b => ?_) fun a _ b _ => ?_
    · simpa using le_trans
    · simpa using le_total a b
    · simpa using le_antisymm

/-- Two values do not stand in both orders in a list without repetitions. -/
lemma not_sublist_swap {α : Type} {a b : α} {xs : List α} (hnodup : xs.Nodup)
    (hab : [a, b].Sublist xs) : ¬ [b, a].Sublist xs := by
  induction xs with
  | nil => cases hab
  | cons x xs ih =>
    obtain ⟨hx, hnodup⟩ := List.nodup_cons.1 hnodup
    intro hba
    cases hab with
    | cons _ hab =>
      cases hba with
      | cons _ hba => exact ih hnodup hab hba
      | cons_cons _ _ => exact hx (hab.subset (by simp))
    | cons_cons _ hb =>
      cases hba with
      | cons _ hba => exact hx (hba.subset (by simp))
      | cons_cons _ _ => exact hx (List.singleton_sublist.1 hb)

/-- A key that comes first stays in front of those that it ties with. -/
lemma pair_sublist_sortKeys {a b : String} {rest : List String}
    (hnumbers : ∀ k ∈ a :: rest, (keyNumber? k).isSome) (htie : keyNumber? a = keyNumber? b)
    (hb : b ∈ rest) : [a, b].Sublist (sortKeys (a :: rest)) := by
  rw [sortKeys_of_numbers hnumbers]
  refine List.pair_sublist_mergeSort numberLe_trans numberLe_total ?_ ?_
  · simp [numberLe, htie]
  · exact (List.singleton_sublist.2 hb).cons_cons a

/-- Two different keys that tie are sorted in the order in which they are given. -/
theorem sortKeys_ne_of_tie {a b : String} {rest rest' : List String}
    (hperm : (a :: rest).Perm (b :: rest')) (hnodup : (a :: rest).Nodup)
    (hnumbers : ∀ k ∈ a :: rest, (keyNumber? k).isSome) (htie : keyNumber? a = keyNumber? b)
    (hne : a ≠ b) : sortKeys (a :: rest) ≠ sortKeys (b :: rest') := by
  intro heq
  have hb : b ∈ rest :=
    (List.mem_cons.1 (hperm.mem_iff.2 List.mem_cons_self)).resolve_left hne.symm
  have ha : a ∈ rest' :=
    (List.mem_cons.1 (hperm.mem_iff.1 List.mem_cons_self)).resolve_left hne
  have hab : [a, b].Sublist (sortKeys (a :: rest)) := pair_sublist_sortKeys hnumbers htie hb
  have hba : [b, a].Sublist (sortKeys (a :: rest)) := by
    rw [heq]
    exact pair_sublist_sortKeys (fun k hk => hnumbers k (hperm.mem_iff.2 hk)) htie.symm ha
  have hsorted : (sortKeys (a :: rest)).Nodup := (sortKeys_perm _).nodup_iff.2 hnodup
  exact not_sublist_swap hsorted hab hba

end CircuitBench
