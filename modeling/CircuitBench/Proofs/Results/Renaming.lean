import Mathlib
import CircuitBench.Results.Normalize
import CircuitBench.Proofs.Results.Tables

/-!
# Several renamings

Columns are renamed one after the other, each time the first of a name. When the old and new names
are all different, no renaming changes what another one finds: a look-up is traced back through all
of them (`firstOf?_renameAll_of_mem`), and the names afterwards are those that the renamings give at
once to the places they find in the first place (`columns_renameAll`).
-/

namespace CircuitBench

/-! ### Look-ups behind several renamings -/

/-- The old and the new names of a mapping. -/
def mappedNames (mapping : List (String × String)) : List String :=
  mapping.flatMap fun p => [p.1, p.2]

/-- The names of the columns that are renamed and their new names are all different. -/
lemma nodup_columnMapping (name : DurationName) : (mappedNames (columnMapping name)).Nodup := by
  cases name <;> decide

/-- Renaming columns leaves the rows alone. -/
lemma rows_renameAll (t : Table) (mapping : List (String × String)) :
    (renameAll t mapping).rows = t.rows := by
  induction mapping generalizing t with
  | nil => rfl
  | cons p mapping ih => exact (ih (t.rename p.1 p.2)).trans (t.rows_rename p.1 p.2)

/-- Renaming columns keeps their number. -/
lemma length_columns_renameAll (t : Table) (mapping : List (String × String)) :
    (renameAll t mapping).columns.length = t.columns.length := by
  induction mapping generalizing t with
  | nil => rfl
  | cons p mapping ih =>
    exact (ih (t.rename p.1 p.2)).trans (t.length_columns_rename p.1 p.2)

/-- Names that a mapping does not mention find what they found before. -/
lemma firstOf?_renameAll_of_notMem {names : List String} {mapping : List (String × String)}
    (h : ∀ n ∈ names, n ∉ mappedNames mapping) (t : Table) (row : List Cell) :
    firstOf? names ((renameAll t mapping).columns.zip row)
      = firstOf? names (t.columns.zip row) := by
  induction mapping generalizing t with
  | nil => rfl
  | cons p mapping ih =>
    have hrest : ∀ n ∈ names, n ∉ mappedNames mapping := fun n hn hmem =>
      h n hn (List.mem_append_right _ hmem)
    have hold : p.1 ∉ names := fun hn => h _ hn (by simp [mappedNames])
    have hnew : p.2 ∉ names := fun hn => h _ hn (by simp [mappedNames])
    exact (ih hrest (t.rename p.1 p.2)).trans (Table.firstOf?_rename_of_notMem hold hnew t row)

/-- The new name of a mapping finds what the old name or the new one stood over first. -/
lemma firstOf?_renameAll_of_mem {old new : String} {mapping : List (String × String)}
    (hnodup : (mappedNames mapping).Nodup) (hmem : (old, new) ∈ mapping) (t : Table)
    (row : List Cell) :
    firstOf? [new] ((renameAll t mapping).columns.zip row)
      = firstOf? [old, new] (t.columns.zip row) := by
  induction mapping generalizing t with
  | nil => cases hmem
  | cons p mapping ih =>
    rw [mappedNames, List.flatMap_cons] at hnodup
    obtain ⟨-, hrest, hdisjoint⟩ := List.nodup_append.1 hnodup
    change firstOf? [new] ((renameAll (t.rename p.1 p.2) mapping).columns.zip row) = _
    rcases List.mem_cons.1 hmem with rfl | hmem
    · -- the later renamings do not touch the name that was just given
      rw [firstOf?_renameAll_of_notMem, Table.firstOf?_rename_of_mem (List.mem_singleton_self _)]
      intro n hn hlater
      exact hdisjoint new (by simp) n hlater (List.mem_singleton.1 hn).symm
    · have hpair : ∀ n ∈ [old, new], n ∈ mappedNames mapping := fun n hn =>
        List.mem_flatMap.2 ⟨_, hmem, hn⟩
      have hold : p.1 ∉ [old, new] := fun hn => hdisjoint p.1 (by simp) _ (hpair _ hn) rfl
      have hnew : p.2 ∉ [old, new] := fun hn => hdisjoint p.2 (by simp) _ (hpair _ hn) rfl
      rw [ih hrest hmem, Table.firstOf?_rename_of_notMem hold hnew]

/-! ### Renaming at once -/

/-- To replace the first occurrence of a name is to give another name to one place. -/
lemma replace_eq_mapIdx (old new : String) (columns : List String) :
    columns.replace old new = columns.mapIdx fun place name =>
      if columns.findIdx? (· == old) = some place then new else name := by
  rw [← Table.getD_set_findIdx?]
  refine List.ext_getElem? fun j => ?_
  rw [List.getElem?_mapIdx]
  cases columns.findIdx? (· == old) with
  | none => simp
  | some i =>
    rw [Option.map_some, Option.getD_some, List.getElem?_set]
    by_cases hij : i = j
    · subst hij
      by_cases hi : i < columns.length
      · simp [hi]
      · simp [hi]
    · simp [hij]

/-- The place of a name does not change while other names are replaced. -/
lemma findIdx?_replace_of_ne {old new name : String} (hold : old ≠ name) (hnew : new ≠ name)
    (columns : List String) :
    (columns.replace old new).findIdx? (· == name) = columns.findIdx? (· == name) := by
  induction columns with
  | nil => rfl
  | cons c columns ih =>
    rw [List.replace_cons]
    by_cases hc : c = old
    · subst hc
      simp [List.findIdx?_cons, hold, hnew]
    · have hne : (old == c) = false := beq_eq_false_iff_ne.2 (Ne.symm hc)
      simp only [hne]
      rw [List.findIdx?_cons, List.findIdx?_cons, ih]

namespace Table

/-- A renaming gives another name to the place where the old one is found. -/
lemma columns_rename_eq_mapIdx (t : Table) (old new : String) :
    (t.rename old new).columns = t.columns.mapIdx fun place name =>
      if t.columnIndex? old = some place then new else name := by
  rw [columns_rename]
  exact replace_eq_mapIdx old new t.columns

/-- Renaming leaves other names in their places. -/
lemma columnIndex?_rename_of_ne {old new name : String} (hold : old ≠ name) (hnew : new ≠ name)
    (t : Table) : (t.rename old new).columnIndex? name = t.columnIndex? name := by
  rw [columnIndex?, columns_rename]
  exact findIdx?_replace_of_ne hold hnew t.columns

/-- The name at a place after several renamings that each find the column they find in the table
itself. -/
def renamedAt (t : Table) (mapping : List (String × String)) (place : Nat) (name : String) :
    String :=
  ((mapping.find? fun p => t.columnIndex? p.1 == some place).map Prod.snd).getD name

/-- Of several renamings only one concerns a place. -/
lemma renamedAt_cons (t : Table) (p : String × String) (mapping : List (String × String))
    (place : Nat) (name : String) :
    t.renamedAt (p :: mapping) place name
      = if t.columnIndex? p.1 = some place then p.2 else t.renamedAt mapping place name := by
  rw [renamedAt, List.find?_cons]
  by_cases hplace : t.columnIndex? p.1 = some place
  · simp [hplace]
  · have hne : (t.columnIndex? p.1 == some place) = false := beq_eq_false_iff_ne.2 hplace
    rw [hne, if_neg hplace]
    rfl

/-- A renaming is not seen by later ones of other names. -/
lemma renamedAt_rename {p : String × String} {mapping : List (String × String)}
    (h : ∀ q ∈ mapping, p.1 ≠ q.1 ∧ p.2 ≠ q.1) (t : Table) :
    (t.rename p.1 p.2).renamedAt mapping = t.renamedAt mapping := by
  funext place name
  rw [renamedAt, renamedAt]
  induction mapping with
  | nil => rfl
  | cons q mapping ih =>
    obtain ⟨hold, hnew⟩ := h q List.mem_cons_self
    rw [List.find?_cons, List.find?_cons, columnIndex?_rename_of_ne hold hnew]
    split
    · rfl
    · exact ih fun q' hq' => h q' (List.mem_cons_of_mem q hq')

/-- Two names are not found at one place. -/
lemma columnIndex?_inj {t : Table} {name other : String} {place : Nat}
    (h : t.columnIndex? name = some place) (h' : t.columnIndex? other = some place) :
    name = other := by
  obtain ⟨hi, hname, -⟩ := List.findIdx?_eq_some_iff_getElem.1 h
  obtain ⟨hi', hother, -⟩ := List.findIdx?_eq_some_iff_getElem.1 h'
  exact (beq_iff_eq.1 hname).symm.trans (beq_iff_eq.1 hother)

/-- A place where one name is found keeps its name while others are renamed. -/
lemma renamedAt_of_columnIndex? {t : Table} {old : String} {place : Nat}
    (hplace : t.columnIndex? old = some place) {mapping : List (String × String)}
    (h : ∀ q ∈ mapping, old ≠ q.1) (name : String) : t.renamedAt mapping place name = name := by
  have hnone : mapping.find? (fun q => t.columnIndex? q.1 == some place) = none := by
    refine List.find?_eq_none.2 fun q hq hfound => ?_
    exact h q hq (columnIndex?_inj hplace (beq_iff_eq.1 hfound))
  rw [renamedAt, hnone]
  rfl

/-- What a table calls a column is found in the same place after renamings of other columns. -/
lemma columnIndex?_renameAll_of_notMem {mapping : List (String × String)} {name : String}
    (h : name ∉ mapping.map Prod.fst ∧ name ∉ mapping.map Prod.snd) (t : Table) :
    (renameAll t mapping).columnIndex? name = t.columnIndex? name := by
  induction mapping generalizing t with
  | nil => rfl
  | cons p mapping ih =>
    obtain ⟨hold, hnew⟩ := h
    rw [List.map_cons, List.mem_cons, not_or] at hold hnew
    exact (ih ⟨hold.2, hnew.2⟩ (t.rename p.1 p.2)).trans
      (columnIndex?_rename_of_ne (Ne.symm hold.1) (Ne.symm hnew.1) t)

end Table

/-- To rename columns one after the other is to rename them at once, when all names are
different. -/
lemma columns_renameAll {mapping : List (String × String)} (h : (mappedNames mapping).Nodup)
    (t : Table) :
    (renameAll t mapping).columns = t.columns.mapIdx (t.renamedAt mapping) := by
  induction mapping generalizing t with
  | nil =>
    refine (List.mapIdx_eq_iff.2 fun i => ?_).symm
    change t.columns[i]? = t.columns[i]?.map (t.renamedAt [] i)
    cases t.columns[i]? <;> rfl
  | cons p mapping ih =>
    rw [mappedNames, List.flatMap_cons] at h
    obtain ⟨-, hrest, hdisjoint⟩ := List.nodup_append.1 h
    have hold : ∀ q ∈ mapping, q.1 ∈ mappedNames mapping := fun q hq =>
      List.mem_flatMap.2 ⟨q, hq, by simp⟩
    have hfirst : ∀ q ∈ mapping, p.1 ≠ q.1 ∧ p.2 ≠ q.1 := fun q hq =>
      ⟨hdisjoint p.1 (by simp) _ (hold q hq), hdisjoint p.2 (by simp) _ (hold q hq)⟩
    change (renameAll (t.rename p.1 p.2) mapping).columns = _
    rw [ih hrest, Table.columns_rename_eq_mapIdx, List.mapIdx_mapIdx,
      Table.renamedAt_rename hfirst]
    refine congrArg (List.mapIdx · t.columns) (funext fun place => funext fun name => ?_)
    rw [Table.renamedAt_cons, Function.comp_apply]
    by_cases hplace : t.columnIndex? p.1 = some place
    · rw [if_pos hplace, if_pos hplace]
      exact Table.renamedAt_of_columnIndex? hplace (fun q hq => (hfirst q hq).1) _
    · rw [if_neg hplace, if_neg hplace]

end CircuitBench
