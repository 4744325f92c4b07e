import CircuitBench.Proofs.Circuit.Tket.Programs
import CircuitBench.Proofs.Results.FirstAppearance

/-!
# Registers rebuilt from units

A document has no registers, only units, in any order and possibly with gaps and repetitions. The
registers that are rebuilt have the names of the units in order of first appearance, and under each
name all units up to the last one listed. The invariant of the rebuilding is `Spans`, which each
unit keeps (`spans_of_registersOf`).
-/

namespace CircuitBench.Tket

/-- The registers stand for the units: one register for each name, in order of first appearance,
with all units up to the last one listed under the name. -/
structure Spans (places : List Place) (registers : List Register) : Prop where
  /-- Every unit has exactly one index. -/
  single : ∀ p ∈ places, ∃ u, p = Place.ofWire u
  /-- The names are those of the units. -/
  names_eq : registers.map Register.name = distinct (places.map Place.register)
  /-- Under each name there are the units up to the last one listed. -/
  mem_wires : ∀ w, w ∈ registers.flatMap Register.wires ↔
    ∃ u, Place.ofWire u ∈ places ∧ u.register = w.register ∧ w.index ≤ u.index

/-- The registers that stand for units have distinct names. -/
lemma Spans.nodup {places : List Place} {registers : List Register} (h : Spans places registers) :
    (registers.map Register.name).Nodup := by
  rw [h.names_eq]
  exact nodup_distinct _

/-- A unit that is listed is one of the registers that stand for the list. -/
lemma Spans.mem_of_listed {places : List Place} {registers : List Register}
    (h : Spans places registers) {w : Wire} (hw : Place.ofWire w ∈ places) :
    w ∈ registers.flatMap Register.wires :=
  (h.mem_wires w).2 ⟨w, hw, rfl, le_rfl⟩

/-- The names of registers that stand for units are those of their units. -/
lemma Spans.mem_names {places : List Place} {registers : List Register} (h : Spans places registers)
    {name : String} :
    name ∈ registers.map Register.name ↔
      ∃ w ∈ registers.flatMap Register.wires, w.register = name := by
  constructor
  · intro hname
    rw [h.names_eq, mem_distinct] at hname
    obtain ⟨p, hp, hname⟩ := List.mem_map.1 hname
    obtain ⟨u, rfl⟩ := h.single p hp
    exact ⟨u, h.mem_of_listed hp, hname⟩
  · rintro ⟨w, hw, rfl⟩
    obtain ⟨r, hr, hname, -⟩ := mem_flatMap_wires.1 hw
    exact hname ▸ List.mem_map_of_mem hr

/-- No units stand for no registers. -/
lemma spans_nil : Spans [] [] :=
  ⟨by simp, rfl, by simp⟩

/-! ### One more unit -/

/-- Two units have one serial form only if they are the same. -/
lemma ofWire_injective : Function.Injective Place.ofWire := by
  rintro ⟨name, index⟩ ⟨name', index'⟩ h
  simpa [Place.ofWire] using h

/-- Covering a unit adds a name when it is new. -/
lemma map_name_coverUnit (w : Wire) (registers : List Register) :
    (coverUnit w registers).map Register.name =
      insertNew (registers.map Register.name) w.register := by
  induction registers with
  | nil => rfl
  | cons r registers ih =>
    rw [coverUnit]
    by_cases hname : r.name = w.register
    · rw [if_pos hname, insertNew, if_pos (by simp [hname]), List.map_cons, List.map_cons]
    · have hcontains : ((r :: registers).map Register.name).contains w.register =
          (registers.map Register.name).contains w.register := by
        rw [List.map_cons, List.contains_cons, beq_eq_false_iff_ne.2 (Ne.symm hname),
          Bool.false_or]
      rw [if_neg hname, List.map_cons, ih, insertNew, insertNew, hcontains]
      split
      · rfl
      · rfl

/-- Covering a unit adds the units of its name that do not come after it. -/
lemma mem_wires_coverUnit {w v : Wire} {registers : List Register} :
    v ∈ (coverUnit w registers).flatMap Register.wires ↔
      v ∈ registers.flatMap Register.wires ∨ w.register = v.register ∧ v.index ≤ w.index := by
  induction registers with
  | nil => simp [coverUnit, Register.mem_wires]
  | cons r registers ih =>
    rw [coverUnit, List.flatMap_cons, List.mem_append]
    by_cases hname : r.name = w.register
    · have hfirst : v ∈ Register.wires ⟨r.name, max r.size (w.index + 1)⟩ ↔
          v ∈ r.wires ∨ w.register = v.register ∧ v.index ≤ w.index := by
        rw [Register.mem_wires, Register.mem_wires, hname, lt_max_iff, Nat.lt_succ_iff, and_or_left]
      rw [if_pos hname, List.flatMap_cons, List.mem_append, hfirst, or_right_comm]
    · rw [if_neg hname, List.flatMap_cons, List.mem_append, ih, or_assoc]

/-- A unit that is added has one index within the limit, and is covered. -/
lemma of_addPlace_eq_ok {registers next : List Register} {p : Place}
    (h : addPlace registers p = .ok next) :
    ∃ w, p = Place.ofWire w ∧ w.index < unitLimit ∧ next = coverUnit w registers := by
  unfold addPlace at h
  obtain ⟨w, hw, h⟩ := of_bind_eq_ok h
  split at h
  next hlimit =>
    cases h
    exact ⟨w, toWire_eq_ok_iff.1 hw, hlimit, rfl⟩
  next => cases h

/-- Registers that stand for units and cover one more stand for all of them. -/
lemma Spans.cover {places : List Place} {registers : List Register} (h : Spans places registers)
    (w : Wire) : Spans (places ++ [Place.ofWire w]) (coverUnit w registers) := by
  constructor
  case single =>
    intro p hp
    rcases List.mem_append.1 hp with hp | hp
    · exact h.single p hp
    · exact ⟨w, List.mem_singleton.1 hp⟩
  case names_eq =>
    rw [map_name_coverUnit, h.names_eq, List.map_append, List.map_singleton, distinct_concat]
    rfl
  case mem_wires =>
    intro v
    rw [mem_wires_coverUnit, h.mem_wires]
    constructor
    · rintro (⟨u, hu, hle⟩ | hle)
      · exact ⟨u, List.mem_append_left _ hu, hle⟩
      · exact ⟨w, List.mem_append_right _ (List.mem_singleton_self _), hle⟩
    · rintro ⟨u, hu, hle⟩
      rcases List.mem_append.1 hu with hu | hu
      · exact .inl ⟨u, hu, hle⟩
      · rw [ofWire_injective (List.mem_singleton.1 hu)] at hle
        exact .inr hle

/-! ### All units -/

/-- Registers that stand for units and take up more units one by one stand for all of them. -/
lemma Spans.of_foldlM {places more : List Place} {before registers : List Register}
    (h : Spans places before) (hfold : more.foldlM addPlace before = .ok registers) :
    Spans (places ++ more) registers := by
  induction more generalizing places before with
  | nil =>
    cases hfold
    rwa [List.append_nil]
  | cons p more ih =>
    rw [List.foldlM_cons] at hfold
    obtain ⟨next, hnext, hfold⟩ := of_bind_eq_ok hfold
    obtain ⟨w, rfl, -, rfl⟩ := of_addPlace_eq_ok hnext
    simpa using ih (h.cover w) hfold

/-- The registers that are rebuilt from units stand for them. -/
theorem spans_of_registersOf {places : List Place} {registers : List Register}
    (h : registersOf places = .ok registers) : Spans places registers := by
  unfold registersOf at h
  obtain ⟨rebuilt, hfold, h⟩ := of_bind_eq_ok h
  obtain ⟨-, -, h⟩ := of_bind_eq_ok h
  cases h
  exact spans_nil.of_foldlM hfold

end CircuitBench.Tket
