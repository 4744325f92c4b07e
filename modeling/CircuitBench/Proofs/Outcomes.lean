import Mathlib.Data.List.Basic

/-!
# Results in several steps

The readers work in steps that may fail. What the outcome of the whole says about the steps: two
steps one after the other have a result only by a result of the first (`of_bind_eq_ok`), and a list
has one exactly when every element has (`exists_mapM_eq_ok_iff`).
-/

namespace CircuitBench

variable {α β ε : Type}

/-- A result in two steps has a result of the first step. -/
lemma of_bind_eq_ok {x : Except ε α} {f : α → Except ε β} {b : β}
    (h : (x >>= f) = .ok b) : ∃ a, x = .ok a ∧ f a = .ok b := by
  cases x with
  | error e => cases h
  | ok a => exact ⟨a, rfl, h⟩

/-- A mapped result is the image of a result. -/
lemma of_map_eq_ok {x : Except ε α} {f : α → β} {b : β}
    (h : x.map f = .ok b) : ∃ a, x = .ok a ∧ f a = b := by
  cases x with
  | error e => cases h
  | ok a =>
    cases h
    exact ⟨a, rfl, rfl⟩

/-- Results for all elements make a result for the list. -/
lemma mapM_eq_ok {f : α → Except ε β} {g : α → β} {xs : List α}
    (h : ∀ x ∈ xs, f x = .ok (g x)) : xs.mapM f = .ok (xs.map g) := by
  induction xs with
  | nil => rfl
  | cons x xs ih =>
    rw [List.mapM_cons, h x List.mem_cons_self, ih fun y hy => h y (List.mem_cons_of_mem _ hy)]
    rfl

/-- A result for a list has one part for every element. -/
lemma of_mapM_eq_ok {f : α → Except ε β} {xs : List α} {ys : List β}
    (h : xs.mapM f = .ok ys) : ys.length = xs.length ∧ ∀ y ∈ ys, ∃ x ∈ xs, f x = .ok y := by
  induction xs generalizing ys with
  | nil =>
    cases h
    simp
  | cons x xs ih =>
    rw [List.mapM_cons] at h
    obtain ⟨y, hx, h⟩ := of_bind_eq_ok h
    obtain ⟨others, hxs, h⟩ := of_bind_eq_ok h
    cases h
    obtain ⟨hlength, hmem⟩ := ih hxs
    refine ⟨by rw [List.length_cons, List.length_cons, hlength], ?_⟩
    intro z hz
    rcases List.mem_cons.1 hz with rfl | hz
    · exact ⟨x, List.mem_cons_self, hx⟩
    · obtain ⟨x', hx', hfx'⟩ := hmem z hz
      exact ⟨x', List.mem_cons_of_mem _ hx', hfx'⟩

/-- A list of results has a result for every element. -/
lemma exists_of_mapM_eq_ok {f : α → Except ε β} {xs : List α} {ys : List β}
    (h : xs.mapM f = .ok ys) : ∀ x ∈ xs, ∃ y, f x = .ok y := by
  induction xs generalizing ys with
  | nil => exact fun x hx => absurd hx List.not_mem_nil
  | cons x xs ih =>
    rw [List.mapM_cons] at h
    obtain ⟨y, hx, h⟩ := of_bind_eq_ok h
    obtain ⟨others, hxs, -⟩ := of_bind_eq_ok h
    exact List.forall_mem_cons.2 ⟨⟨y, hx⟩, ih hxs⟩

/-- A list has a result exactly when every element has one. -/
lemma exists_mapM_eq_ok_iff {f : α → Except ε β} {xs : List α} :
    (∃ ys, xs.mapM f = .ok ys) ↔ ∀ x ∈ xs, ∃ y, f x = .ok y := by
  constructor
  · rintro ⟨ys, h⟩
    exact exists_of_mapM_eq_ok h
  · intro h
    induction xs with
    | nil => exact ⟨[], rfl⟩
    | cons x xs ih =>
      obtain ⟨⟨y, hy⟩, hxs⟩ := List.forall_mem_cons.1 h
      obtain ⟨ys, hys⟩ := ih hxs
      exact ⟨y :: ys, by rw [List.mapM_cons, hy, hys]; rfl⟩

/-- The parts of a result for a list are determined when the results for its elements are. -/
lemma eq_map_of_mapM_eq_ok {f : α → Except ε β} {g : α → β} {xs : List α}
    {ys : List β} (hf : ∀ x ∈ xs, ∀ y, f x = .ok y → y = g x) (h : xs.mapM f = .ok ys) :
    ys = xs.map g := by
  induction xs generalizing ys with
  | nil =>
    cases h
    rfl
  | cons x xs ih =>
    rw [List.mapM_cons] at h
    obtain ⟨y, hx, h⟩ := of_bind_eq_ok h
    obtain ⟨others, hxs, h⟩ := of_bind_eq_ok h
    cases h
    rw [List.map_cons, hf x List.mem_cons_self y hx,
      ih (fun x' hx' => hf x' (List.mem_cons_of_mem _ hx')) hxs]

/-- A list with an element that is refused is refused, for the reason of one of its elements. -/
lemma exists_mapM_eq_error {f : α → Except ε β} {xs : List α} {x : α} {e : ε}
    (hx : x ∈ xs) (he : f x = .error e) :
    ∃ y ∈ xs, ∃ e', f y = .error e' ∧ xs.mapM f = .error e' := by
  induction xs with
  | nil => cases hx
  | cons y xs ih =>
    rw [List.mapM_cons]
    rcases hy : f y with e' | b
    · exact ⟨y, List.mem_cons_self, e', hy, rfl⟩
    · have hmem : x ∈ xs := by
        refine (List.mem_cons.1 hx).resolve_left ?_
        rintro rfl
        rw [hy] at he
        cases he
      obtain ⟨z, hz, e', hfz, hxs⟩ := ih hmem
      exact ⟨z, List.mem_cons_of_mem _ hz, e', hfz, by rw [hxs]; rfl⟩

end CircuitBench
