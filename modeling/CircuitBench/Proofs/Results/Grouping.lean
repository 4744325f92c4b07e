import Mathlib
import CircuitBench.Results.Normalize
import CircuitBench.Proofs.Results.Keys

/-!
# Counts and groups of rows

The rows of a table are counted, and the values of one column grouped, by what the rows show under a
name (`Table.Shows`). A look-up that finds a cell in each row (`Table.Fills`) goes through all rows,
so every row is counted once (`Table.counts_countBy`) and every value is listed in the group of its
row (`Table.groups_distinctBy`).
-/

namespace CircuitBench.Table

/-- A look-up in a row finds a cell with the written form. -/
def Shows (t : Table) (row : List Cell) (name text : String) : Prop :=
  ∃ cell, t.cell? row name = some cell ∧ String.ofList cell.written = text

/-- A look-up finds a cell in each row. -/
def Fills (t : Table) (name : String) : Prop :=
  ∀ row ∈ t.rows, ∃ cell, t.cell? row name = some cell

/-- Each row is counted for what it shows under a name, and nothing is counted that no row shows. -/
structure Counts (t : Table) (name : String) (counts : List (String × Nat)) : Prop where
  nodup : (counts.map Prod.fst).Nodup
  pos : ∀ p ∈ counts, 0 < p.2
  count_eq : ∀ p ∈ counts, p.2 = (t.rows.filter (t.writtenCell · name == p.1)).length
  sum_eq : (counts.map Prod.snd).sum = t.length

/-- The values that rows show under one name are listed, once each, for what the same rows show
under another name. -/
structure Groups (t : Table) (keyName valueName : String) (groups : List (String × List String)) :
    Prop where
  nodup_keys : (groups.map Prod.fst).Nodup
  nodup_values : ∀ p ∈ groups, p.2.Nodup
  values_ne_nil : ∀ p ∈ groups, p.2 ≠ []
  mem_iff : ∀ key value, (∃ values, (key, values) ∈ groups ∧ value ∈ values) ↔
    ∃ row ∈ t.rows, t.Shows row keyName key ∧ t.Shows row valueName value

section Written

variable {t : Table} {name : String}

/-- A row with a cell under a name shows its written form and nothing else. -/
lemma shows_iff {row : List Cell} (h : ∃ cell, t.cell? row name = some cell) {text : String} :
    t.Shows row name text ↔ t.writtenCell row name = text := by
  obtain ⟨cell, hcell⟩ := h
  rw [Shows, writtenCell, hcell]
  simp

/-- A column with a cell in each row is written row by row. -/
lemma Fills.writtenColumn_eq (h : t.Fills name) :
    t.writtenColumn name = t.rows.map (t.writtenCell · name) := by
  rw [writtenColumn, column?]
  cases hindex : t.columnIndex? name with
  | none =>
    -- no row has a cell, so there is no row
    have hrows : t.rows = [] := List.eq_nil_iff_forall_not_mem.2 fun row hrow => by
      obtain ⟨cell, hcell⟩ := h row hrow
      rw [cell?, hindex] at hcell
      cases hcell
    rw [hrows]
    rfl
  | some place =>
    rw [Option.map_some, Option.getD_some, List.map_map]
    refine List.map_congr_left fun row hrow => ?_
    obtain ⟨cell, hcell⟩ := h row hrow
    have hplace : row[place]? = some cell := by
      rw [cell?, hindex] at hcell
      exact hcell
    rw [Function.comp_apply, writtenCell, hcell, List.getD_eq_getElem?_getD, hplace]
    rfl

end Written

/-- The rows are counted by a column with a cell in each of them. -/
theorem counts_countBy {t : Table} {name : String} (h : t.Fills name) :
    t.Counts name (t.countBy name) := by
  have hkeys := h.writtenColumn_eq
  have hcount : ∀ key, (t.writtenColumn name).count key =
      (t.rows.filter (t.writtenCell · name == key)).length := by
    intro key
    rw [hkeys, List.count, List.countP_map, List.countP_eq_length_filter]
    rfl
  constructor
  case nodup =>
    rw [countBy, List.map_map]
    simpa [Function.comp_def] using nodup_sortedDistinct (t.writtenColumn name)
  case pos =>
    intro p hp
    obtain ⟨key, hkey, rfl⟩ := List.mem_map.1 hp
    exact List.count_pos_iff.2 (mem_sortedDistinct.1 hkey)
  case count_eq =>
    intro p hp
    obtain ⟨key, -, rfl⟩ := List.mem_map.1 hp
    exact hcount key
  case sum_eq =>
    have hsum := sum_length_filter (t.writtenCell · name) t.rows
      (nodup_sortedDistinct (t.writtenColumn name)) fun key => by rw [mem_sortedDistinct, hkeys]
    rw [countBy, List.map_map, Table.length, ← hsum]
    exact congrArg List.sum (List.map_congr_left fun key _ => hcount key)

/-- The values of one column are grouped by another, when both have a cell in each row. -/
theorem groups_distinctBy {t : Table} {keyName valueName : String} (hkey : t.Fills keyName)
    (hvalue : t.Fills valueName) :
    t.Groups keyName valueName (t.distinctBy keyName valueName) := by
  have hpairs : (t.writtenColumn keyName).zip (t.writtenColumn valueName) =
      t.rows.map fun row => (t.writtenCell row keyName, t.writtenCell row valueName) := by
    rw [hkey.writtenColumn_eq, hvalue.writtenColumn_eq, List.zip_map']
  have hgroup : ∀ key value, value ∈ sortKeys (distinct (((t.rows.map fun row =>
      (t.writtenCell row keyName, t.writtenCell row valueName)).filter
        (·.1 == key)).map Prod.snd)) ↔
        ∃ row ∈ t.rows, t.writtenCell row keyName = key ∧ t.writtenCell row valueName = value := by
    intro key value
    rw [(sortKeys_perm _).mem_iff, mem_distinct]
    simp
  have hmem : ∀ key, key ∈ sortedDistinct ((t.rows.map fun row =>
      (t.writtenCell row keyName, t.writtenCell row valueName)).map Prod.fst) ↔
        ∃ row ∈ t.rows, t.writtenCell row keyName = key := by
    intro key
    rw [mem_sortedDistinct]
    simp
  unfold distinctBy
  rw [hpairs]
  constructor
  case nodup_keys =>
    rw [List.map_map]
    simpa [Function.comp_def] using nodup_sortedDistinct _
  case nodup_values =>
    intro p hp
    obtain ⟨key, -, rfl⟩ := List.mem_map.1 hp
    exact (sortKeys_perm _).nodup_iff.2 (nodup_distinct _)
  case values_ne_nil =>
    intro p hp
    obtain ⟨key, hk, rfl⟩ := List.mem_map.1 hp
    obtain ⟨row, hrow, hshown⟩ := (hmem key).1 hk
    exact List.ne_nil_of_mem ((hgroup key _).2 ⟨row, hrow, hshown, rfl⟩)
  case mem_iff =>
    intro key value
    constructor
    · rintro ⟨values, hvalues, hv⟩
      obtain ⟨key, -, heq⟩ := List.mem_map.1 hvalues
      cases heq
      obtain ⟨row, hrow, hk, hv⟩ := (hgroup key value).1 hv
      exact ⟨row, hrow, (shows_iff (hkey row hrow)).2 hk, (shows_iff (hvalue row hrow)).2 hv⟩
    · rintro ⟨row, hrow, hk, hv⟩
      rw [shows_iff (hkey row hrow)] at hk
      rw [shows_iff (hvalue row hrow)] at hv
      exact ⟨_, List.mem_map.2 ⟨key, (hmem key).2 ⟨row, hrow, hk⟩, rfl⟩,
        (hgroup key value).2 ⟨row, hrow, hk, hv⟩⟩

end CircuitBench.Table
