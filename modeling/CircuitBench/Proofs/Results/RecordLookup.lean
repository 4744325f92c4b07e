import Mathlib
import CircuitBench.Proofs.Results.Points
import CircuitBench.Proofs.Results.ResultFiles
import CircuitBench.Proofs.Results.Union

/-!
# The cells of a table and look-ups in its records

The row of a record is filled field by field, so of several fields with one name the last is left in
the table; a look-up in the record takes the first of them. The two agree on each name exactly when
its first and its last field have one value (`cellsOfRecords_aggregate`), and on all names of a
record whose file does not repeat a column (`Record.IsRow.last?_eq_get?`). They need not agree in
general (`not_forall_holds`).
-/

namespace CircuitBench

/-! ### The first and the last field of a name -/

/-- A name has a last field exactly when it has a first one. -/
lemma Record.isSome_last? (r : Record) (name : String) :
    (r.last? name).isSome = (r.get? name).isSome := by
  rw [Bool.eq_iff_iff, Record.last?, Record.get?, List.lookup_isSome_iff, List.lookup_isSome_iff]
  simp only [List.mem_reverse]

/-- The values of both are the same as cells when they are the same. -/
lemma Record.getD_last?_eq_iff (r : Record) (name : String) :
    (r.last? name).getD .missing = (r.get? name).getD .missing ↔ r.last? name = r.get? name := by
  have hsome := r.isSome_last? name
  constructor
  · intro hcells
    cases hlast : r.last? name with
    | none =>
      rw [hlast] at hsome
      exact (Option.not_isSome_iff_eq_none.1 (Bool.eq_false_iff.1 hsome.symm)).symm
    | some cell =>
      rw [hlast] at hsome hcells
      obtain ⟨first, hfirst⟩ := Option.isSome_iff_exists.1 hsome.symm
      rw [hfirst] at hcells ⊢
      exact congrArg some hcells
  · intro hfields
    rw [hfields]

/-- Both are the same field when the name does not repeat. -/
lemma Record.last?_eq_get? {r : Record} {name : String}
    (h : (r.fields.map Prod.fst).count name ≤ 1) : r.last? name = r.get? name :=
  lookup_reverse_of_count h

/-- So it is with all names of a row when the header does not repeat one. -/
lemma Record.IsRow.last?_eq_get? {source : Source} {dataset : String}
    {header row : List (List Char)}
    {r : Record} (h : Record.IsRow source dataset header row r)
    (hheader : (header.map String.ofList).Nodup) (name : String) : r.last? name = r.get? name := by
  refine Record.last?_eq_get? (List.nodup_iff_count_le_one.1 ?_ name)
  rw [h.columns_eq]
  exact hheader.filter _

/-! ### Cells and look-ups -/

/-- Under a name, a row holds what a look-up in a record finds, or a missing cell if that is
nothing. -/
def Table.Holds (t : Table) (row : Nat) (r : Record) (name : String) : Prop :=
  t.get? row name = some ((r.get? name).getD .missing)

section Cells

variable {sets : List (List Record)} {k : Nat} {r : Record} {name : String}

/-- Under the name of a field the row of a record holds the last field of that name. -/
lemma get?_aggregate_payload (hr : sets.flatten[k]? = some r)
    (hname : name ∈ payloadColumns sets.flatten) :
    (aggregate sets).get? k name = some ((r.last? name).getD .missing) := by
  rw [get?_aggregate, hr, Option.bind_some, cell?_aggregate, if_pos hname]

/-- That is what a look-up in the record finds when its first field is the last one. -/
lemma holds_aggregate_iff (hr : sets.flatten[k]? = some r)
    (hname : name ∈ payloadColumns sets.flatten) :
    (aggregate sets).Holds k r name ↔ r.last? name = r.get? name := by
  rw [Table.Holds, get?_aggregate_payload hr hname, Option.some.injEq, r.getD_last?_eq_iff]

end Cells

/-- What the table of all records holds in the row of a record under the name of a field. -/
structure CellsOfRecords (sets : List (List Record)) (k : Nat) (r : Record) (name : String) :
    Prop where
  /-- It is the last field of that name, or a missing cell. -/
  cell : (aggregate sets).get? k name = some ((r.last? name).getD .missing)
  /-- The cell is missing when the record has no such field. -/
  missing : name ∉ r.fields.map Prod.fst → (aggregate sets).get? k name = some .missing
  /-- A look-up in the record finds the same exactly when its first field is the last one, -/
  holds_iff : (aggregate sets).Holds k r name ↔ r.last? name = r.get? name
  /-- as it is for a name that does not repeat in the record, -/
  holds_of_count : (r.fields.map Prod.fst).count name ≤ 1 → (aggregate sets).Holds k r name
  /-- and in the rows of a file that does not repeat a column. -/
  holds_of_header : ∀ source dataset header row, Record.IsRow source dataset header row r →
    (header.map String.ofList).Nodup → (aggregate sets).Holds k r name

/-- The table of all records has a cell in the row of each record under the name of each field: the
last field of that name. A look-up in the record finds it exactly when its first field of that name
is the same. -/
theorem cellsOfRecords_aggregate (sets : List (List Record)) :
    ∀ k r, sets.flatten[k]? = some r → ∀ name ∈ payloadColumns sets.flatten,
      CellsOfRecords sets k r name := by
  intro k r hr name hname
  have hcell := get?_aggregate_payload hr hname
  have hholds := holds_aggregate_iff hr hname
  refine ⟨hcell, fun habsent => ?_, hholds, fun hcount => ?_, fun _ _ _ _ hrow hheader => ?_⟩
  · have hnone : r.last? name = none := Record.last?_eq_none fun f hf heq =>
      habsent (List.mem_map.2 ⟨f, hf, heq⟩)
    rw [hcell, hnone, Option.getD_none]
  · exact hholds.2 (Record.last?_eq_get? hcount)
  · exact hholds.2 (hrow.last?_eq_get? hheader name)

/-- A sheet that repeats the column of sizes. -/
def repeatedSheet : Csv.Sheet where
  header := ["size".toList, "size".toList]
  rows := [["200".toList, "400".toList]]

/-- The record of its row. -/
def repeatedRecord : Record where
  source := .quartz
  dataset := "2_6-eccs"
  fields := [("size", .int 200), ("size", .int 400)]

/-- The record behind one that has a field of its own. -/
def mixedSets : List (List Record) :=
  [[⟨.portmatching, "10_5-eccs", [("duration", .int 2)]⟩], [repeatedRecord]]

/-- The second row has the second size, and the duration that the record lacks is missing there. -/
theorem cellsOfRecords_mixedSets :
    mixedSets.flatten[1]? = some repeatedRecord ∧
      (aggregate mixedSets).get? 1 "size" = some (.int 400) ∧
        (aggregate mixedSets).Holds 1 repeatedRecord "duration" := by
  have hrecord : mixedSets.flatten[1]? = some repeatedRecord := rfl
  have hsize := cellsOfRecords_aggregate mixedSets 1 repeatedRecord hrecord "size" (by decide)
  have hduration :=
    cellsOfRecords_aggregate mixedSets 1 repeatedRecord hrecord "duration" (by decide)
  exact ⟨hrecord, hsize.cell, hduration.holds_of_count (by decide)⟩

/-- A look-up in the record of a sheet that repeats a column finds the first size, and the table of
all records has the second. -/
theorem not_forall_holds :
    recordsOf .quartz "2_6-eccs" repeatedSheet = [repeatedRecord] ∧
      repeatedRecord.get? "size" = some (.int 200) ∧
      (aggregate [[repeatedRecord]]).get? 0 "size" = some (.int 400) ∧
      ¬ ∀ sets : List (List Record),
        (∀ r ∈ sets.flatten, ∀ f ∈ r.fields, f.1 ≠ "source" ∧ f.1 ≠ "dataset") →
          ∀ k r, sets.flatten[k]? = some r → ∀ name ∈ payloadColumns sets.flatten,
            (aggregate sets).Holds k r name := by
  have hfirst : repeatedRecord.get? "size" = some (.int 200) := by decide
  have hcell : (aggregate [[repeatedRecord]]).get? 0 "size" = some (.int 400) := by decide
  refine ⟨by rfl, hfirst, hcell, fun hholds => ?_⟩
  have hsize : (aggregate [[repeatedRecord]]).Holds 0 repeatedRecord "size" :=
    hholds _ (by decide) 0 _ rfl _ (by decide)
  rw [Table.Holds, hcell, hfirst] at hsize
  exact absurd hsize (by decide)

end CircuitBench
