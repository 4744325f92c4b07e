import CircuitBench.Proofs.Circuit.Tket.Registers

/-!
# The registers of a list of units

Registers are rebuilt from units one after the other, with the limit checked for every unit and for
all registers in the end. Which lists are accepted (`Admissible`), and what is rebuilt from them
(`rebuilt`), can be said at once: it depends on the names in the order of their first appearance and
on the largest index under each name, one below their `extent`. The program computes with words of
32 bits and a checked successor, which comes to the same (`registersOf_toPlace`).

`registersOf_eq_ok_iff` is when registers are rebuilt, and which; `registersOf_exact` adds how they
belong to the units and that registers are rebuilt from their own units.
-/

namespace CircuitBench.Tket

/-! ### The largest index of a name -/

/-- One more than the largest index that is listed under a name. -/
def extent (places : List Place) (name : String) : Nat :=
  ((places.filter (·.register = name)).flatMap Place.indices).toFinset.sup (· + 1)

/-- What lies below an index that is listed under a name lies below its extent. -/
lemma lt_extent_iff {places : List Place} {name : String} {i : Nat} :
    i < extent places name ↔ ∃ p ∈ places, p.register = name ∧ ∃ j ∈ p.indices, i ≤ j := by
  simp only [extent, Finset.lt_sup_iff, List.mem_toFinset, List.mem_flatMap, List.mem_filter,
    decide_eq_true_eq, Nat.lt_succ_iff]
  constructor
  · rintro ⟨j, ⟨p, ⟨hp, hname⟩, hj⟩, hle⟩
    exact ⟨p, hp, hname, j, hj, hle⟩
  · rintro ⟨p, hp, hname, j, hj, hle⟩
    exact ⟨j, ⟨p, ⟨hp, hname⟩, hj⟩, hle⟩

/-- Lists with the same units have the same extents. -/
lemma extent_congr {places others : List Place} (h : ∀ p, p ∈ others ↔ p ∈ places) :
    extent others = extent places := by
  refine funext fun name => eq_of_forall_lt_iff fun i => ?_
  simp only [lt_extent_iff, h]

/-! ### Which lists are accepted -/

/-- A list of units that registers are rebuilt from. -/
structure Admissible (places : List Place) : Prop where
  /-- Every unit has exactly one index. -/
  single : ∀ p ∈ places, p.indices.length = 1
  /-- No index is beyond the limit. -/
  index_lt : ∀ p ∈ places, ∀ i ∈ p.indices, i < 2 ^ 20
  /-- Up to the largest index of each name there are not too many units together. -/
  total_le : ((distinct (places.map Place.register)).map (extent places)).sum ≤ 2 ^ 20

instance (places : List Place) : Decidable (Admissible places) :=
  decidable_of_iff ((∀ p ∈ places, p.indices.length = 1) ∧
      (∀ p ∈ places, ∀ i ∈ p.indices, i < 2 ^ 20) ∧
        ((distinct (places.map Place.register)).map (extent places)).sum ≤ 2 ^ 20)
    ⟨fun h => ⟨h.1, h.2.1, h.2.2⟩, fun h => ⟨h.single, h.index_lt, h.total_le⟩⟩

/-- The registers that are rebuilt: one for each name, in the order of first appearance, up to the
largest index that is listed under the name. -/
def rebuilt (places : List Place) : List Register :=
  (distinct (places.map Place.register)).map fun name => ⟨name, extent places name⟩

/-- They have as many units as there are up to the largest indices. -/
lemma unitCount_rebuilt (places : List Place) : unitCount (rebuilt places) =
    ((distinct (places.map Place.register)).map (extent places)).sum := by
  rw [unitCount_eq_sum, rebuilt, List.map_map]
  rfl

/-- Units are taken up one by one exactly when each has one index within the limit. -/
lemma exists_foldlM_addPlace_iff {places : List Place} {before : List Register} :
    (∃ registers, places.foldlM addPlace before = .ok registers) ↔
      ∀ p ∈ places, ∃ w, p = Place.ofWire w ∧ w.index < unitLimit := by
  constructor
  · rintro ⟨registers, h⟩
    induction places generalizing before with
    | nil => exact nofun
    | cons p places ih =>
      rw [List.foldlM_cons] at h
      obtain ⟨next, hnext, h⟩ := of_bind_eq_ok h
      obtain ⟨w, hp, hw, -⟩ := of_addPlace_eq_ok hnext
      exact List.forall_mem_cons.2 ⟨⟨w, hp, hw⟩, ih h⟩
  · intro h
    induction places generalizing before with
    | nil => exact ⟨before, rfl⟩
    | cons p places ih =>
      obtain ⟨⟨w, rfl, hw⟩, hplaces⟩ := List.forall_mem_cons.1 h
      obtain ⟨registers, hfold⟩ := @ih (coverUnit w before) hplaces
      refine ⟨registers, ?_⟩
      rw [List.foldlM_cons, addPlace_ofWire hw]
      exact hfold

/-- The registers that stand for units have the sizes that the indices ask for. -/
lemma Spans.size_eq {places : List Place} {registers : List Register} (h : Spans places registers)
    {r : Register} (hr : r ∈ registers) : r.size = extent places r.name := by
  have hunits : ∀ i, i < r.size ↔ ⟨r.name, i⟩ ∈ registers.flatMap Register.wires := by
    intro i
    rw [mem_flatMap_wires_iff_find h.nodup, findRegister?_eq_some h.nodup hr]
    simp
  -- both sizes are told by the indices below them
  refine eq_of_forall_lt_iff fun i => ?_
  rw [hunits, h.mem_wires, lt_extent_iff]
  constructor
  · rintro ⟨u, hu, hname, hle⟩
    exact ⟨_, hu, hname, u.index, List.mem_singleton_self _, hle⟩
  · rintro ⟨p, hp, hname, j, hj, hle⟩
    obtain ⟨u, rfl⟩ := h.single p hp
    exact ⟨u, hp, hname, List.mem_singleton.1 hj ▸ hle⟩

/-- Only the rebuilt registers stand for units. -/
lemma Spans.eq_rebuilt {places : List Place} {registers : List Register}
    (h : Spans places registers) : registers = rebuilt places := by
  have hsame :
      registers.map (fun r => (⟨r.name, extent places r.name⟩ : Register)) = registers := by
    conv_rhs => rw [← List.map_id registers]
    exact List.map_congr_left fun r hr => by rw [← h.size_eq hr]; rfl
  rw [rebuilt, ← h.names_eq, List.map_map]
  exact hsame.symm

/-- Units that each have one index are serial forms of units. -/
lemma Admissible.exists_ofWire {places : List Place} (h : Admissible places) :
    ∀ p ∈ places, ∃ w, p = Place.ofWire w ∧ w.index < unitLimit := by
  intro p hp
  obtain ⟨i, hi⟩ := List.length_eq_one_iff.1 (h.single p hp)
  refine ⟨⟨p.register, i⟩, ?_, h.index_lt p hp i (hi ▸ List.mem_singleton_self i)⟩
  rw [Place.ofWire, ← hi]

/-- Registers are rebuilt from the admissible lists, and from no others. -/
lemma registersOf_eq_ok_iff {places : List Place} {registers : List Register} :
    registersOf places = .ok registers ↔ Admissible places ∧ registers = rebuilt places := by
  constructor
  · intro h
    have hcount := unitCount_le_of_registersOf h
    obtain rfl := (spans_of_registersOf h).eq_rebuilt
    rw [unitCount_rebuilt] at hcount
    obtain ⟨found, hfold, -⟩ := of_bind_eq_ok h
    have hplaces := exists_foldlM_addPlace_iff.1 ⟨found, hfold⟩
    refine ⟨⟨fun p hp => ?_, fun p hp i hi => ?_, hcount⟩, rfl⟩
    · obtain ⟨w, rfl, -⟩ := hplaces p hp
      rfl
    · obtain ⟨w, rfl, hw⟩ := hplaces p hp
      exact List.mem_singleton.1 hi ▸ hw
  · rintro ⟨h, rfl⟩
    obtain ⟨found, hfold⟩ := (@exists_foldlM_addPlace_iff places []).2 h.exists_ofWire
    have hspans : Spans places found := spans_nil.of_foldlM hfold
    obtain rfl := hspans.eq_rebuilt
    exact registersOf_eq_ok hfold (by rw [unitCount_rebuilt]; exact h.total_le)

/-! ### Registers and units -/

/-- Registers have as many units as they declare. -/
lemma length_flatMap_wires (registers : List Register) :
    (registers.flatMap Register.wires).length = unitCount registers := by
  have hlength : (fun r => (Register.wires r).length) = Register.size :=
    funext fun r => by rw [Register.wires, List.length_map, List.length_range]
  rw [List.length_flatMap, unitCount_eq_sum, hlength]

/-- Lists with the same units are accepted together. -/
lemma Admissible.congr {places others : List Place} (h : Admissible places)
    (hsame : ∀ p, p ∈ others ↔ p ∈ places) :
    Admissible others ∧ (rebuilt others).Perm (rebuilt places) := by
  have hnames :
      (distinct (others.map Place.register)).Perm (distinct (places.map Place.register)) := by
    refine (List.perm_ext_iff_of_nodup (nodup_distinct _) (nodup_distinct _)).2 fun name => ?_
    simp only [mem_distinct, List.mem_map, hsame]
  rw [rebuilt, rebuilt, extent_congr hsame]
  refine ⟨⟨fun p hp => h.single p ((hsame p).1 hp), fun p hp => h.index_lt p ((hsame p).1 hp), ?_⟩,
    hnames.map _⟩
  rw [extent_congr hsame, (hnames.map _).sum_eq]
  exact h.total_le

/-- How the registers that are rebuilt and the units belong together. -/
structure Rebuilds (places : List Place) (registers : List Register) : Prop where
  /-- There is a register for each name, in the order of first appearance. -/
  names : FirstAppearances (places.map Place.register) (registers.map Register.name)
  /-- Its size is one more than the largest index that is listed under its name. -/
  sizes : ∀ r ∈ registers, ∃ i,
    IsGreatest {j | Place.ofWire ⟨r.name, j⟩ ∈ places} i ∧ r.size = i + 1
  /-- Every unit that is listed is a unit of the registers. -/
  listed : ∀ p ∈ places, ∃ w ∈ registers.flatMap Register.wires, p = Place.ofWire w
  /-- There are not too many units. -/
  units_le : (registers.flatMap Register.wires).length ≤ 2 ^ 20
  /-- The same units in another order, or more often, give the same registers in some order. -/
  regrouped : ∀ others, (∀ p, p ∈ others ↔ p ∈ places) →
    ∃ found, registersOf others = .ok found ∧ found.Perm registers

/-- The largest index under the name of a register is listed, and makes its size. -/
lemma Spans.exists_isGreatest {places : List Place} {registers : List Register}
    (h : Spans places registers) {r : Register} (hr : r ∈ registers) :
    ∃ i, IsGreatest {j | Place.ofWire ⟨r.name, j⟩ ∈ places} i ∧ r.size = i + 1 := by
  have hlisted : ∀ j, Place.ofWire ⟨r.name, j⟩ ∈ places → j < r.size := by
    intro j hj
    rw [h.size_eq hr, lt_extent_iff]
    exact ⟨_, hj, rfl, j, List.mem_singleton_self j, le_rfl⟩
  obtain ⟨p, hp, hname⟩ : ∃ p ∈ places, p.register = r.name := by
    rw [← List.mem_map, ← mem_distinct, ← h.names_eq]
    exact List.mem_map_of_mem hr
  obtain ⟨u, rfl⟩ := h.single p hp
  obtain ⟨size, hsize⟩ : ∃ size, r.size = size + 1 := by
    refine Nat.exists_eq_add_one.2 (Nat.zero_lt_of_lt (hlisted u.index ?_))
    rwa [← hname]
  refine ⟨size, ⟨?_, fun j hj => ?_⟩, hsize⟩
  · -- the last unit of the register is not beyond the indices that are listed
    have hlast : size < extent places r.name := by
      rw [← h.size_eq hr, hsize]
      exact Nat.lt_succ_self size
    obtain ⟨q, hq, hqname, j, hj, hle⟩ := lt_extent_iff.1 hlast
    obtain ⟨v, rfl⟩ := h.single q hq
    obtain rfl := List.mem_singleton.1 hj
    have hv : (⟨r.name, size⟩ : Wire) = v := by
      have hlt := hlisted v.index (by rwa [← hqname])
      rw [← hqname, Nat.le_antisymm hle (by omega)]
      rfl
    rwa [Set.mem_ofPred_eq, hv]
  · have hlt := hlisted j hj
    omega

/-- The registers that are rebuilt belong to the units. -/
lemma rebuilds_of_registersOf {places : List Place} {registers : List Register}
    (h : registersOf places = .ok registers) : Rebuilds places registers := by
  have hspans := spans_of_registersOf h
  obtain ⟨hplaces, heq⟩ := registersOf_eq_ok_iff.1 h
  refine ⟨?_, fun r hr => hspans.exists_isGreatest hr, fun p hp => ?_, ?_, fun others hsame => ?_⟩
  · rw [hspans.names_eq]
    exact firstAppearances_distinct _
  · obtain ⟨w, rfl⟩ := hspans.single p hp
    exact ⟨w, hspans.mem_of_listed hp, rfl⟩
  · rw [length_flatMap_wires]
    exact unitCount_le_of_registersOf h
  · obtain ⟨hothers, hperm⟩ := hplaces.congr hsame
    exact ⟨_, registersOf_eq_ok_iff.2 ⟨hothers, rfl⟩, heq ▸ hperm⟩

/-! ### Words of 32 bits -/

/-- The next word, if there is one. -/
def nextWord? (i : UInt32) : Option UInt32 :=
  if i.toNat + 1 < UInt32.size then some (i + 1) else none

/-- The next word is the next number. -/
lemma nextWord?_eq_some_iff {i n : UInt32} : nextWord? i = some n ↔ n.toNat = i.toNat + 1 := by
  rw [nextWord?]
  split_ifs with hlt
  · have hnext : (i + 1).toNat = i.toNat + 1 := by
      rw [UInt32.toNat_add, UInt32.toNat_one, Nat.mod_eq_of_lt hlt]
    rw [Option.some.injEq, ← hnext, eq_comm, UInt32.toNat_inj]
  · refine iff_of_false nofun fun hn => hlt ?_
    rw [← hn]
    exact n.toNat_lt_size

/-- Only the largest word has no next one. -/
lemma nextWord?_eq_none_iff {i : UInt32} : nextWord? i = none ↔ i.toNat = 2 ^ 32 - 1 := by
  have hlt := i.toNat_lt_size
  rw [nextWord?]
  split_ifs with hnext
  · exact iff_of_false nofun (by simp only [UInt32.size] at hnext; omega)
  · exact iff_of_true rfl (by simp only [UInt32.size] at hnext hlt; omega)

/-- A serial unit whose indices are words. -/
structure WordPlace where
  register : String
  indices : List UInt32

/-- The serial unit with the indices as numbers. -/
def WordPlace.toPlace (p : WordPlace) : Place :=
  ⟨p.register, p.indices.map UInt32.toNat⟩

/-- A register whose size is a word. -/
structure WordRegister where
  name : String
  size : UInt32

/-- The register with its size as a number. -/
def WordRegister.toRegister (r : WordRegister) : Register :=
  ⟨r.name, r.size.toNat⟩

/-- Registers of which the one with a name has some size at least. -/
def coverWord (name : String) (size : UInt32) : List WordRegister → List WordRegister
  | [] => [⟨name, size⟩]
  | r :: others =>
    if r.name = name then ⟨r.name, max r.size size⟩ :: others
    else r :: coverWord name size others

/-- The size that an index asks for: the next word, if there is one within the limit. -/
def wordSize? (i : UInt32) : Option UInt32 :=
  (nextWord? i).filter (· ≤ 1048576)

/-- Registers that cover one more unit, whose size keeps within the limit. -/
def addIndex (registers : List WordRegister) (name : String) (i : UInt32) :
    Except CircuitFault (List WordRegister) :=
  match wordSize? i with
  | some size => .ok (coverWord name size registers)
  | none => .error (.beyondLimit ⟨name, i.toNat⟩)

/-- Registers that cover one more unit with exactly one index. -/
def addWordPlace (registers : List WordRegister) (p : WordPlace) :
    Except CircuitFault (List WordRegister) :=
  match p.indices with
  | [i] => addIndex registers p.register i
  | others => .error (.indexCount p.register others.length)

/-- The registers that a list of units stands for, computed with words. -/
def wordRegistersOf (places : List WordPlace) : Except CircuitFault (List WordRegister) := do
  let registers ← places.foldlM addWordPlace []
  checkUnitCount (registers.map WordRegister.toRegister)
  return registers

/-- It is one more than an index within the limit. -/
lemma wordSize?_eq_some_iff {i size : UInt32} :
    wordSize? i = some size ↔ size.toNat = i.toNat + 1 ∧ i.toNat < unitLimit := by
  have hlimit : unitLimit = (1048576 : UInt32).toNat := rfl
  rw [wordSize?, Option.filter_eq_some_iff, nextWord?_eq_some_iff, decide_eq_true_iff,
    UInt32.le_iff_toNat_le, ← hlimit]
  refine and_congr_right fun hsize => ?_
  rw [hsize, Nat.succ_le_iff]

/-- An index within the limit asks for a size. -/
lemma exists_wordSize? {i : UInt32} (h : i.toNat < unitLimit) :
    ∃ size, wordSize? i = some size := by
  have hne : nextWord? i ≠ none := by
    rw [Ne, nextWord?_eq_none_iff]
    exact Nat.ne_of_lt (h.trans (by decide))
  obtain ⟨size, hsize⟩ := Option.ne_none_iff_exists'.1 hne
  exact ⟨size, wordSize?_eq_some_iff.2 ⟨nextWord?_eq_some_iff.1 hsize, h⟩⟩

/-- The larger of two words is the larger number. -/
lemma toNat_max (a b : UInt32) : (max a b).toNat = max a.toNat b.toNat := by
  change (if a ≤ b then b else a).toNat = _
  split_ifs with h
  · exact (max_eq_right (UInt32.le_iff_toNat_le.1 h)).symm
  · exact (max_eq_left (Nat.le_of_not_le (mt UInt32.le_iff_toNat_le.2 h))).symm

/-- The register of a name is enlarged with words as it is with numbers. -/
lemma map_toRegister_coverWord {w : Wire} {size : UInt32} (h : size.toNat = w.index + 1)
    (registers : List WordRegister) :
    (coverWord w.register size registers).map WordRegister.toRegister =
      coverUnit w (registers.map WordRegister.toRegister) := by
  induction registers with
  | nil => simp [coverWord, coverUnit, WordRegister.toRegister, h]
  | cons r registers ih =>
    have hsame : r.toRegister.name = r.name := rfl
    rw [coverWord, List.map_cons, coverUnit, hsame]
    split_ifs with hname
    · rw [List.map_cons]
      simp only [WordRegister.toRegister, toNat_max, h]
    · rw [List.map_cons, ih]

/-- One more unit is covered with words as it is with numbers, or refused alike. -/
lemma addPlace_addIndex (registers : List WordRegister) (name : String) (i : UInt32) :
    addPlace (registers.map WordRegister.toRegister) (Place.ofWire ⟨name, i.toNat⟩) =
      (addIndex registers name i).map (List.map WordRegister.toRegister) := by
  by_cases hlimit : i.toNat < unitLimit
  · obtain ⟨size, hsize⟩ := exists_wordSize? hlimit
    have hcover := @map_toRegister_coverWord ⟨name, i.toNat⟩ _ (wordSize?_eq_some_iff.1 hsize).1
    rw [addPlace_ofWire hlimit, addIndex, hsize, ← hcover]
    rfl
  · have hsize : wordSize? i = none := Option.eq_none_iff_forall_ne_some.2 fun size hsize =>
      hlimit (wordSize?_eq_some_iff.1 hsize).2
    rw [addIndex, hsize]
    change (if i.toNat < unitLimit then pure _ else throw _) = _
    rw [if_neg hlimit]
    rfl

/-- So it is with a unit that may have any number of indices. -/
lemma addPlace_toPlace (registers : List WordRegister) (p : WordPlace) :
    addPlace (registers.map WordRegister.toRegister) p.toPlace =
      (addWordPlace registers p).map (List.map WordRegister.toRegister) := by
  obtain ⟨name, indices⟩ := p
  match indices with
  | [] => rfl
  | [i] => exact addPlace_addIndex registers name i
  | i :: j :: others =>
    have hlength : (i :: j :: others).length = ((i :: j :: others).map UInt32.toNat).length :=
      (List.length_map _).symm
    change _ = Except.error (CircuitFault.indexCount name (i :: j :: others).length)
    rw [hlength]
    rfl

/-- So it is with several units. -/
lemma foldlM_addPlace_toPlace (registers : List WordRegister) (places : List WordPlace) :
    (places.map WordPlace.toPlace).foldlM addPlace (registers.map WordRegister.toRegister) =
      (places.foldlM addWordPlace registers).map (List.map WordRegister.toRegister) := by
  induction places generalizing registers with
  | nil => rfl
  | cons p places ih =>
    rw [List.map_cons, List.foldlM_cons, List.foldlM_cons, addPlace_toPlace]
    rcases addWordPlace registers p with e | next
    · rfl
    · exact ih next

/-- Words of 32 bits are enough: the registers that are rebuilt with them are those that are rebuilt
with numbers, and a list that is refused is refused for the same reason. -/
lemma registersOf_toPlace (places : List WordPlace) :
    registersOf (places.map WordPlace.toPlace) =
      (wordRegistersOf places).map (List.map WordRegister.toRegister) := by
  have hfold := foldlM_addPlace_toPlace [] places
  rw [List.map_nil] at hfold
  rw [registersOf, wordRegistersOf, hfold]
  rcases places.foldlM addWordPlace [] with e | registers
  · rfl
  · change (checkUnitCount (registers.map WordRegister.toRegister) >>= _) =
      (checkUnitCount (registers.map WordRegister.toRegister) >>= _).map _
    rcases checkUnitCount (registers.map WordRegister.toRegister) with e | ⟨⟩
    · rfl
    · rfl

/-- The registers of a list of units are exact: they are rebuilt from the admissible lists and from
no others, one for each name and as large as the largest index under it asks for. To compute them
with words of 32 bits comes to the same, and from the units of registers with distinct names, none
of them empty, these registers are rebuilt. -/
theorem registersOf_exact :
    (∀ places registers, registersOf places = .ok registers ↔
      Admissible places ∧ registers = rebuilt places) ∧
    (∀ places registers, registersOf places = .ok registers → Rebuilds places registers) ∧
    (∀ i, (∀ n, nextWord? i = some n ↔ n.toNat = i.toNat + 1) ∧
      (nextWord? i = none ↔ i.toNat = 2 ^ 32 - 1)) ∧
    (∀ places, registersOf (places.map WordPlace.toPlace) =
      (wordRegistersOf places).map (List.map WordRegister.toRegister)) ∧
    ∀ registers : List Register, (registers.map Register.name).Nodup →
      (∀ r ∈ registers, 1 ≤ r.size) → unitCount registers ≤ 2 ^ 20 →
        registersOf ((registers.flatMap Register.wires).map Place.ofWire) = .ok registers := by
  refine ⟨fun _ _ => registersOf_eq_ok_iff, fun _ _ h => rebuilds_of_registersOf h, ?words,
    registersOf_toPlace, ?inverse⟩
  case words =>
    intro i
    exact ⟨fun n => nextWord?_eq_some_iff, nextWord?_eq_none_iff⟩
  case inverse =>
    intro registers hnodup hpos hle
    exact registersOf_wires hnodup hpos hle

/-- Units of two registers that come in turns, with a gap and a repetition. -/
def mixedPlaces : List Place :=
  [⟨"q", [2]⟩, ⟨"a", [0]⟩, ⟨"q", [0]⟩, ⟨"q", [2]⟩]

/-- The registers of these units. -/
def mixedRegisters : List Register :=
  [⟨"q", 3⟩, ⟨"a", 1⟩]

/-- The mixed units make two registers, in the opposite order too; the registers are rebuilt from
their own units; and the largest word is beyond the limit. -/
theorem registersOf_exact_mixedPlaces :
    Admissible mixedPlaces ∧ registersOf mixedPlaces = .ok mixedRegisters ∧
      (∃ found, registersOf mixedPlaces.reverse = .ok found ∧ found.Perm mixedRegisters) ∧
      registersOf ((mixedRegisters.flatMap Register.wires).map Place.ofWire) = .ok mixedRegisters ∧
      registersOf ([⟨"q", [4294967295]⟩].map WordPlace.toPlace) =
        .error (.beyondLimit ⟨"q", 4294967295⟩) := by
  obtain ⟨haccepted, hrebuilds, -, hwords, hinverse⟩ := registersOf_exact
  have hadmissible : Admissible mixedPlaces := by decide +kernel
  have hmixed : registersOf mixedPlaces = .ok mixedRegisters :=
    (haccepted _ _).2 ⟨hadmissible, by decide +kernel⟩
  refine ⟨hadmissible, hmixed, (hrebuilds _ _ hmixed).regrouped _ fun p => List.mem_reverse, ?_, ?_⟩
  · exact hinverse _ (by decide) (by decide) (by decide)
  · rw [hwords]
    rfl

end CircuitBench.Tket
