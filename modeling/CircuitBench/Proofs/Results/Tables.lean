import Mathlib
import CircuitBench.Results.Aggregate
import CircuitBench.Proofs.Results.FirstAppearance

/-!
# Rows as named cells

A row is read together with the names of the columns above it. A look-up by name then takes the
first cell of that name (`Table.cell?_eq_firstOf?`), a renaming moves the name of one cell
(`Table.firstOf?_rename_of_mem`), and a new column puts a cell at the end (`firstOf?_zip_append`).
With these three facts a look-up in a table that was renamed and extended is traced back to the
table it was made from, whatever names the columns have and however often.

The same is done with the row of a record, which keeps the last of the fields with one name
(`Record.row_eq`).
-/

namespace CircuitBench

/-! ### The first value of a name -/

/-- The first value whose name is one of the given names. -/
def firstOf? {α : Type} (names : List String) (pairs : List (String × α)) : Option α :=
  (pairs.find? fun p => names.contains p.1).map Prod.snd

section FirstOf

variable {α : Type}

@[simp] lemma firstOf?_nil (names : List String) : firstOf? names ([] : List (String × α)) = none :=
  rfl

/-- The value of the first name counts if it is one of the names. -/
lemma firstOf?_cons (names : List String) (name : String) (value : α)
    (pairs : List (String × α)) :
    firstOf? names ((name, value) :: pairs)
      = if name ∈ names then some value else firstOf? names pairs := by
  rw [firstOf?, List.find?_cons]
  by_cases h : name ∈ names
  · simp [h]
  · simp [h, firstOf?]

/-- Values that stand later count when there is none before them. -/
lemma firstOf?_append (names : List String) (pairs rest : List (String × α)) :
    firstOf? names (pairs ++ rest) = (firstOf? names pairs).or (firstOf? names rest) := by
  rw [firstOf?, firstOf?, firstOf?, List.find?_append, Option.map_or]

/-- Values that depend on their names are found by the first name. -/
lemma firstOf?_map (names columns : List String) (value : String → α) :
    firstOf? names (columns.map fun c => (c, value c))
      = (columns.find? names.contains).map value := by
  rw [firstOf?, List.find?_map, Option.map_map]
  rfl

/-- When only one of several names may be among the columns, the others need not be looked for. -/
lemma find?_contains_eq_ite (names columns : List String) (name : String)
    (h : ∀ c ∈ columns, c ∈ names ↔ c = name) :
    columns.find? names.contains = if name ∈ columns then some name else none := by
  induction columns with
  | nil => rfl
  | cons c columns ih =>
    have hc : names.contains c = decide (c = name) := by
      rw [List.contains_eq_mem]
      exact decide_eq_decide.2 (h c List.mem_cons_self)
    rw [List.find?_cons, hc, ih fun d hd => h d (List.mem_cons_of_mem c hd)]
    by_cases hname : c = name
    · simp [hname]
    · simp [hname, Ne.symm hname]

/-- More names and values at the end are looked at last. -/
lemma firstOf?_zip_append (names columns more : List String) (values cells : List α)
    (h : values.length = columns.length) :
    firstOf? names ((columns ++ more).zip (values ++ cells))
      = (firstOf? names (columns.zip values)).or (firstOf? names (more.zip cells)) := by
  rw [List.zip_append h.symm, firstOf?_append]

/-- A replaced name is not seen by those who look for neither the old name nor the new one. -/
lemma firstOf?_zip_replace_of_notMem {names : List String} {old new : String}
    (hold : old ∉ names) (hnew : new ∉ names) (columns : List String) (values : List α) :
    firstOf? names ((columns.replace old new).zip values) =
      firstOf? names (columns.zip values) := by
  induction columns generalizing values with
  | nil => rfl
  | cons c columns ih =>
    cases values with
    | nil => simp
    | cons v values =>
      rw [List.replace_cons]
      by_cases hc : c = old
      · subst hc
        simp [firstOf?_cons, hold, hnew]
      · have hne : (old == c) = false := beq_eq_false_iff_ne.2 (Ne.symm hc)
        simp only [hne]
        rw [List.zip_cons_cons, List.zip_cons_cons, firstOf?_cons, firstOf?_cons, ih]

/-- Who looks for the new name finds what the old name or the new one stood over first. -/
lemma firstOf?_zip_replace_of_mem {names : List String} {old new : String} (hnew : new ∈ names)
    (columns : List String) (values : List α) :
    firstOf? names ((columns.replace old new).zip values)
      = firstOf? (old :: names) (columns.zip values) := by
  induction columns generalizing values with
  | nil => rfl
  | cons c columns ih =>
    cases values with
    | nil => simp
    | cons v values =>
      rw [List.replace_cons]
      by_cases hc : c = old
      · subst hc
        simp [firstOf?_cons, hnew]
      · have hne : (old == c) = false := beq_eq_false_iff_ne.2 (Ne.symm hc)
        have hmem : c ∈ old :: names ↔ c ∈ names := by simp [hc]
        simp only [hne]
        rw [List.zip_cons_cons, List.zip_cons_cons, firstOf?_cons, firstOf?_cons, ih]
        simp only [hmem]

end FirstOf

/-- A value whose name is not repeated is found from either end. -/
lemma lookup_reverse_of_count {α : Type} {name : String} {pairs : List (String × α)}
    (h : (pairs.map Prod.fst).count name ≤ 1) :
    pairs.reverse.lookup name = pairs.lookup name := by
  cases hfirst : pairs.lookup name with
  | none =>
    refine List.lookup_eq_none_iff.2 fun p hp => ?_
    exact List.lookup_eq_none_iff.1 hfirst p (List.mem_reverse.1 hp)
  | some value =>
    obtain ⟨before, after, rfl, hbefore⟩ := List.lookup_eq_some_iff.1 hfirst
    have hafter : ∀ p ∈ after.reverse, (name != p.1) = true := by
      intro p hp
      rw [List.map_append, List.count_append, List.map_cons, List.count_cons_self] at h
      have hzero : (after.map Prod.fst).count name = 0 := by omega
      have hmem := List.mem_map_of_mem (f := Prod.fst) (List.mem_reverse.1 hp)
      simpa using fun heq : name = p.1 => List.count_eq_zero.1 hzero (heq ▸ hmem)
    exact List.lookup_eq_some_iff.2 ⟨after.reverse, before.reverse, by simp, hafter⟩

/-! ### Look-ups, renamings and new columns -/

namespace Table

/-- A look-up takes the first cell whose column has the name. -/
lemma cell?_eq_firstOf? (t : Table) (row : List Cell) (name : String) :
    t.cell? row name = firstOf? [name] (t.columns.zip row) := by
  rw [cell?, columnIndex?]
  induction t.columns generalizing row with
  | nil => rfl
  | cons c columns ih =>
    rw [List.findIdx?_cons]
    cases row with
    | nil => simp
    | cons v row =>
      rw [List.zip_cons_cons, firstOf?_cons, ← ih row]
      by_cases hc : c = name
      · simp [hc]
      · have hne : (c == name) = false := beq_eq_false_iff_ne.2 hc
        rw [hne, if_neg (mt List.mem_singleton.1 hc), if_neg Bool.false_ne_true, Option.bind_map]
        rfl

/-- To set the first place of a name is to replace its first occurrence. -/
lemma getD_set_findIdx? (old new : String) (columns : List String) :
    ((columns.findIdx? (· == old)).map fun i => columns.set i new).getD columns
      = columns.replace old new := by
  induction columns with
  | nil => rfl
  | cons c columns ih =>
    rw [List.findIdx?_cons, List.replace_cons]
    by_cases hc : c = old
    · simp [hc]
    · have hne : (c == old) = false := beq_eq_false_iff_ne.2 hc
      have hne' : (old == c) = false := beq_eq_false_iff_ne.2 (Ne.symm hc)
      simp only [hne, hne', ← ih]
      cases columns.findIdx? (· == old) <;> rfl

/-- Renaming leaves the cells alone. -/
@[simp] lemma rows_rename (t : Table) (old new : String) : (t.rename old new).rows = t.rows := by
  rw [rename, rename?]
  cases t.columnIndex? old <;> rfl

/-- Renaming replaces the first occurrence of a name. -/
lemma columns_rename (t : Table) (old new : String) :
    (t.rename old new).columns = t.columns.replace old new := by
  rw [rename, rename?, columnIndex?, ← getD_set_findIdx? old new t.columns]
  cases t.columns.findIdx? (· == old) <;> rfl

/-- The name of a renamed column finds what the old name or the new one stood over first. -/
lemma firstOf?_rename_of_mem {names : List String} {old new : String} (hnew : new ∈ names)
    (t : Table) (row : List Cell) :
    firstOf? names ((t.rename old new).columns.zip row)
      = firstOf? (old :: names) (t.columns.zip row) := by
  rw [columns_rename]
  exact firstOf?_zip_replace_of_mem hnew _ _

/-- Other names find what they found before. -/
lemma firstOf?_rename_of_notMem {names : List String} {old new : String} (hold : old ∉ names)
    (hnew : new ∉ names) (t : Table) (row : List Cell) :
    firstOf? names ((t.rename old new).columns.zip row) = firstOf? names (t.columns.zip row) := by
  rw [columns_rename]
  exact firstOf?_zip_replace_of_notMem hold hnew _ _

/-- Renaming keeps the number of columns. -/
@[simp] lemma length_columns_rename (t : Table) (old new : String) :
    (t.rename old new).columns.length = t.columns.length := by
  rw [columns_rename, List.length_replace]

end Table

/-- One more cell for each row, when rows and cells are made from the same list. -/
lemma appendCells_map {α : Type} (xs : List α) (row : α → List Cell) (cell : α → Cell) :
    appendCells (xs.map row) (xs.map cell) = xs.map fun x => row x ++ [cell x] := by
  induction xs with
  | nil => rfl
  | cons x xs ih =>
    rw [List.map_cons, List.map_cons, appendCells, ih]
    rfl

/-! ### The table of all records -/

/-- The payload columns are the names of the fields. -/
lemma mem_payloadColumns {records : List Record} {name : String} :
    name ∈ payloadColumns records ↔ ∃ r ∈ records, ∃ f ∈ r.fields, f.1 = name := by
  rw [payloadColumns, mem_distinct, List.mem_flatMap]
  simp only [List.mem_map]

/-- No payload column is named as the source or the data set. -/
lemma notMem_payloadColumns {sets : List (List Record)}
    (h : ∀ r ∈ sets.flatten, ∀ f ∈ r.fields, f.1 ≠ sourceColumn ∧ f.1 ≠ datasetColumn) :
    sourceColumn ∉ payloadColumns sets.flatten ∧ datasetColumn ∉ payloadColumns sets.flatten := by
  constructor
  · intro hmem
    obtain ⟨r, hr, f, hf, hname⟩ := mem_payloadColumns.1 hmem
    exact (h r hr f hf).1 hname
  · intro hmem
    obtain ⟨r, hr, f, hf, hname⟩ := mem_payloadColumns.1 hmem
    exact (h r hr f hf).2 hname

/-- The names of fields are different columns. -/
lemma nodup_payloadColumns (records : List Record) : (payloadColumns records).Nodup :=
  nodup_distinct _

/-- A field that is put into a row takes no more room. -/
lemma length_placeField (columns : List String) (row : List Cell) (field : String × Cell) :
    (placeField columns row field).length = row.length := by
  rw [placeField]
  split
  · exact List.length_set
  · rfl

/-- Nor do several fields. -/
lemma length_foldl_placeField (columns : List String) (fields : List (String × Cell))
    (row : List Cell) : (fields.foldl (placeField columns) row).length = row.length := by
  induction fields generalizing row with
  | nil => rfl
  | cons field fields ih => rw [List.foldl_cons, ih, length_placeField]

/-- The row of a record has a cell for each column. -/
lemma Record.length_row (columns : List String) (r : Record) :
    (r.row columns).length = columns.length + 2 := by
  rw [Record.row, List.length_append, length_foldl_placeField, List.length_replicate]
  rfl

/-- A field changes the cell under its name and no other, when names do not repeat. -/
lemma placeField_map {columns : List String} (hnodup : columns.Nodup) (value : String → Cell)
    (field : String × Cell) :
    placeField columns (columns.map value) field
      = columns.map (Function.update value field.1 field.2) := by
  rw [placeField]
  induction columns with
  | nil => rfl
  | cons c columns ih =>
    obtain ⟨hc, hnodup⟩ := List.nodup_cons.1 hnodup
    rw [List.findIdx?_cons]
    by_cases hname : c = field.1
    · subst hname
      have hrest : columns.map (Function.update value field.1 field.2) = columns.map value :=
        List.map_congr_left fun d hd =>
          Function.update_of_ne (ne_of_mem_of_not_mem hd hc) _ _
      simp [hrest]
    · have hne : (c == field.1) = false := beq_eq_false_iff_ne.2 hname
      rw [hne, List.map_cons, List.map_cons, Function.update_of_ne hname, ← ih hnodup]
      cases columns.findIdx? (· == field.1) <;> rfl

/-- After several fields each cell has the last value of its name, or the one that it had. -/
lemma foldl_placeField_map {columns : List String} (hnodup : columns.Nodup)
    (fields : List (String × Cell)) (value : String → Cell) :
    fields.foldl (placeField columns) (columns.map value)
      = columns.map fun c => (fields.reverse.lookup c).getD (value c) := by
  induction fields generalizing value with
  | nil => rfl
  | cons field fields ih =>
    rw [List.foldl_cons, placeField_map hnodup, ih]
    refine List.map_congr_left fun c _ => ?_
    rw [List.reverse_cons, List.lookup_append]
    cases fields.reverse.lookup c with
    | some v => rfl
    | none =>
      by_cases hname : c = field.1
      · simp [List.lookup, hname]
      · have hne : (c == field.1) = false := beq_eq_false_iff_ne.2 hname
        simp [List.lookup, hne, Function.update_of_ne hname]

/-- The row of a record under different columns has the last field of each name, missing where there
is none. -/
lemma Record.row_eq {columns : List String} (hnodup : columns.Nodup) (r : Record) :
    r.row columns
      = columns.map (fun c => (r.last? c).getD .missing) ++
          [.text r.source.label, .text r.dataset] := by
  rw [Record.row, ← List.map_const', foldl_placeField_map hnodup]
  rfl

/-- The table of all records has one row for each record, in their order. -/
lemma rows_aggregate (sets : List (List Record)) :
    (aggregate sets).rows
      = sets.flatten.map (Record.row (payloadColumns sets.flatten)) := by
  have hrow : ∀ r : Record,
      resize (payloadColumns sets.flatten ++ [sourceColumn, datasetColumn]).length .missing
        (r.row (payloadColumns sets.flatten)) = r.row (payloadColumns sets.flatten) := by
    intro r
    have hlen := r.length_row (payloadColumns sets.flatten)
    rw [resize, List.length_append, hlen]
    simp [List.take_of_length_le, hlen]
  simp only [aggregate, Table.empty, Table.pushRows, List.nil_append, List.map_map]
  exact List.map_congr_left fun r _ => hrow r

/-- What a record holds under the first of several names: a field, its source or its data set. -/
lemma firstOf?_aggregate (names : List String) (sets : List (List Record)) (r : Record) :
    firstOf? names ((aggregate sets).columns.zip (r.row (payloadColumns sets.flatten)))
      = (((payloadColumns sets.flatten).find? names.contains).map fun c =>
            (r.last? c).getD .missing).or
          (firstOf? names
            [(sourceColumn, .text r.source.label), (datasetColumn, .text r.dataset)]) := by
  have hzip : (payloadColumns sets.flatten).zip
      ((payloadColumns sets.flatten).map fun c => (r.last? c).getD .missing)
        = (payloadColumns sets.flatten).map fun c => (c, (r.last? c).getD .missing) := by
    simpa using List.zip_map' (f := id) (g := fun c => (r.last? c).getD Cell.missing)
      (l := payloadColumns sets.flatten)
  change firstOf? names ((payloadColumns sets.flatten ++ [sourceColumn, datasetColumn]).zip
    (r.row (payloadColumns sets.flatten))) = _
  rw [Record.row_eq (nodup_payloadColumns _), firstOf?_zip_append _ _ _ _ _ (List.length_map _),
    hzip, firstOf?_map]
  rfl

end CircuitBench
