import Mathlib
import CircuitBench.Results.Grouping

/-!
# Order of first appearance

The values of a list are listed once each by going through it and adding what is new at the end
(`nodup_distinct`, `mem_distinct`). So a value stands where it appeared first
(`firstAppearances_distinct`), and more values behind the list change nothing before them
(`distinct_isPrefix`).
-/

namespace CircuitBench

section FirstAppearance

variable {α : Type} [BEq α]

/-- A list has the values of another one, and of two values the one that appears first there stands
first. -/
structure FirstAppearances (xs values : List α) : Prop where
  mem_iff : ∀ x, x ∈ values ↔ x ∈ xs
  ordered : values.Pairwise fun a b => xs.idxOf a < xs.idxOf b

/-- Values in the order of their first appearance are different. -/
lemma FirstAppearances.nodup {xs values : List α} (h : FirstAppearances xs values) :
    values.Nodup :=
  h.ordered.imp fun hlt heq => absurd (heq ▸ hlt) (Nat.lt_irrefl _)

/-- One more value at the end of a list is added if it is new. -/
lemma distinct_concat (xs : List α) (x : α) :
    distinct (xs ++ [x]) = insertNew (distinct xs) x := by
  rw [distinct, List.foldl_append]
  rfl

/-- What is there already stays in front. -/
lemma prefix_insertNew (values : List α) (x : α) : values <+: insertNew values x := by
  rw [insertNew]
  split
  · exact List.prefix_rfl
  · exact List.prefix_append values [x]

/-- The values of a list stand in front of those of a longer list. -/
lemma distinct_isPrefix (xs ys : List α) : distinct xs <+: distinct (xs ++ ys) := by
  induction ys using List.reverseRecOn with
  | nil => rw [List.append_nil]
  | append_singleton ys y ih =>
    rw [← List.append_assoc, distinct_concat]
    exact ih.trans (prefix_insertNew _ y)

variable [LawfulBEq α]

/-- The values with one more are those that were there and the new one. -/
lemma mem_insertNew {values : List α} {x y : α} :
    y ∈ insertNew values x ↔ y ∈ values ∨ y = x := by
  rw [insertNew]
  split
  next h =>
    have hx : x ∈ values := by simpa using h
    constructor
    · exact Or.inl
    · rintro (hy | rfl)
      · exact hy
      · exact hx
  next => rw [List.mem_append, List.mem_singleton]

/-- The values of a list are listed in the order in which they appear. -/
theorem firstAppearances_distinct (xs : List α) : FirstAppearances xs (distinct xs) := by
  induction xs using List.reverseRecOn with
  | nil => exact ⟨fun x => Iff.rfl, List.Pairwise.nil⟩
  | append_singleton xs x ih =>
    rw [distinct_concat]
    -- the place of a value that was there does not change
    have hplace : ∀ a ∈ distinct xs, (xs ++ [x]).idxOf a = xs.idxOf a := fun a ha =>
      List.idxOf_append_of_mem ((ih.mem_iff a).1 ha)
    have hold : (distinct xs).Pairwise fun a b => (xs ++ [x]).idxOf a < (xs ++ [x]).idxOf b :=
      ih.ordered.imp_of_mem fun {a b} ha hb hlt => by rwa [hplace a ha, hplace b hb]
    constructor
    · intro y
      rw [mem_insertNew, ih.mem_iff, List.mem_append, List.mem_singleton]
    · rw [insertNew]
      split
      · exact hold
      next hnew =>
        have hx : x ∉ xs := fun hmem => hnew (by simpa using (ih.mem_iff x).2 hmem)
        refine List.pairwise_append.2 ⟨hold, List.pairwise_singleton _ x, fun a ha b hb => ?_⟩
        obtain rfl := List.mem_singleton.1 hb
        rw [hplace a ha, List.idxOf_append_of_notMem hx]
        exact Nat.lt_add_right _ (List.idxOf_lt_length_of_mem ((ih.mem_iff a).1 ha))

/-- The values of a list are those of the list without repetitions. -/
lemma mem_distinct (xs : List α) (x : α) : x ∈ distinct xs ↔ x ∈ xs :=
  (firstAppearances_distinct xs).mem_iff x

/-- The values of a list are listed once each. -/
lemma nodup_distinct (xs : List α) : (distinct xs).Nodup :=
  (firstAppearances_distinct xs).nodup

end FirstAppearance

end CircuitBench
