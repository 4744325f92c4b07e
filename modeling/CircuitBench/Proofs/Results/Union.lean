import Mathlib
import CircuitBench.Proofs.Results.Shape

/-!
# The table of all records is their union

The columns are found in a first pass over the records, and the cells are put into their places in a
second one. The table depends on nothing but the sequence of the records (`get?_aggregate`). More
records behind it may bring more columns, which stand behind those that were there; so every look-up
in an earlier row finds what it found before, and a missing cell under a new column
(`aggregate_isUnion`).
-/

namespace CircuitBench

/-- A table is the union of some records: it has the names of their fields as columns, in order of
first appearance, then the source and the data set; and for each record in turn it has a row, as
wide as the header, with the last field of each name, missing where there is none, the source and
the data set. -/
structure Table.IsUnionOf (t : Table) (records : List Record) : Prop where
  columns_eq : t.columns = payloadColumns records ++ ["source", "dataset"]
  payload : FirstAppearances (records.flatMap fun r => r.fields.map Prod.fst)
    (payloadColumns records)
  rows_eq : t.rows = records.map fun r =>
    (payloadColumns records).map (fun c => (r.last? c).getD .missing) ++
      [.text r.source.label, .text r.dataset]
  rectangular : t.Rectangular

/-- The table of all records is the union of the records in their order. -/
lemma isUnionOf_aggregate (sets : List (List Record)) :
    (aggregate sets).IsUnionOf sets.flatten := by
  refine ⟨rfl, firstAppearances_distinct _, ?_, rectangular_aggregate sets⟩
  rw [rows_aggregate]
  exact List.map_congr_left fun r _ => Record.row_eq (nodup_payloadColumns _) r

/-- A record has nothing under a name that none of its fields has. -/
lemma Record.last?_eq_none {r : Record} {name : String} (h : ∀ f ∈ r.fields, f.1 ≠ name) :
    r.last? name = none := by
  refine List.lookup_eq_none_iff.2 fun f hf => ?_
  have hne := h f (List.mem_reverse.1 hf)
  simpa using hne.symm

section Lookup

variable (sets : List (List Record))

/-- Under the name of a field the row of a record has the last field of that name; other names are
those of the source and the data set. -/
lemma cell?_aggregate (r : Record) (name : String) :
    (aggregate sets).cell? (r.row (payloadColumns sets.flatten)) name
      = if name ∈ payloadColumns sets.flatten then some ((r.last? name).getD .missing)
        else firstOf? [name]
          [(sourceColumn, .text r.source.label), (datasetColumn, .text r.dataset)] := by
  rw [Table.cell?_eq_firstOf?, firstOf?_aggregate,
    find?_contains_eq_ite _ _ name fun c _ => List.mem_singleton]
  split <;> rfl

/-- A look-up in the table of all records is one in the row of a record. -/
lemma get?_aggregate (k : Nat) (name : String) :
    (aggregate sets).get? k name = (sets.flatten[k]?).bind fun r =>
      (aggregate sets).cell? (r.row (payloadColumns sets.flatten)) name := by
  rw [Table.get?, rows_aggregate, List.getElem?_map, Option.bind_map]
  rfl

end Lookup

section More

variable {sets more : List (List Record)}

/-- The fields of the first records stand in front of those of more records. -/
lemma payloadColumns_isPrefix (sets more : List (List Record)) :
    payloadColumns sets.flatten <+: payloadColumns (sets ++ more).flatten := by
  rw [List.flatten_append, payloadColumns, payloadColumns, List.flatMap_append]
  exact distinct_isPrefix _ _

/-- A row of the first records is a row of more records. -/
lemma getElem?_flatten_append {k : Nat} (hk : k < sets.flatten.length) :
    (sets ++ more).flatten[k]? = some sets.flatten[k] := by
  rw [List.flatten_append, List.getElem?_append_left hk, List.getElem?_eq_getElem hk]

/-- More records leave the cells of a row as they are. -/
lemma cell?_aggregate_append
    (hreserved : ∀ r ∈ (sets ++ more).flatten, ∀ f ∈ r.fields,
      f.1 ≠ sourceColumn ∧ f.1 ≠ datasetColumn)
    (r : Record) {name : String} (hname : name ∈ (aggregate sets).columns) :
    (aggregate (sets ++ more)).cell? (r.row (payloadColumns (sets ++ more).flatten)) name
      = (aggregate sets).cell? (r.row (payloadColumns sets.flatten)) name := by
  rw [cell?_aggregate, cell?_aggregate]
  by_cases hmem : name ∈ payloadColumns sets.flatten
  · rw [if_pos hmem, if_pos ((payloadColumns_isPrefix sets more).subset hmem)]
  · -- the name is that of the source or the data set, which no field has
    obtain ⟨hsource, hdataset⟩ := notMem_payloadColumns hreserved
    have htag : name = sourceColumn ∨ name = datasetColumn := by
      have hcolumns : name ∈ payloadColumns sets.flatten ++ [sourceColumn, datasetColumn] := hname
      rcases List.mem_append.1 hcolumns with h | h
      · exact absurd h hmem
      · simpa using h
    have hnew : name ∉ payloadColumns (sets ++ more).flatten := by
      rcases htag with rfl | rfl
      · exact hsource
      · exact hdataset
    rw [if_neg hmem, if_neg hnew]

/-- A field that only later records have is missing in an earlier row. -/
lemma cell?_aggregate_of_later {r : Record} (hr : r ∈ sets.flatten) {name : String}
    (hmem : name ∈ payloadColumns (sets ++ more).flatten)
    (hlater : name ∉ payloadColumns sets.flatten) :
    (aggregate (sets ++ more)).cell? (r.row (payloadColumns (sets ++ more).flatten)) name
      = some .missing := by
  have hnone : r.last? name = none := Record.last?_eq_none fun f hf heq =>
    hlater (mem_payloadColumns.2 ⟨r, hr, f, hf, heq⟩)
  rw [cell?_aggregate, if_pos hmem, hnone, Option.getD_none]

/-- A look-up in a row of the first records gives the same cell when there are more records. -/
lemma exists_get?_aggregate_append
    (hreserved : ∀ r ∈ (sets ++ more).flatten, ∀ f ∈ r.fields,
      f.1 ≠ sourceColumn ∧ f.1 ≠ datasetColumn)
    {k : Nat} (hk : k < sets.flatten.length) {name : String}
    (hname : name ∈ (aggregate sets).columns) :
    ∃ cell, (aggregate sets).get? k name = some cell ∧
      (aggregate (sets ++ more)).get? k name = some cell := by
  have hrow : sets.flatten[k].row (payloadColumns sets.flatten) ∈ (aggregate sets).rows := by
    rw [rows_aggregate]
    exact List.mem_map_of_mem (List.getElem_mem hk)
  obtain ⟨cell, hcell⟩ := (rectangular_aggregate sets).exists_cell? hrow hname
  refine ⟨cell, ?_, ?_⟩
  · rw [get?_aggregate, List.getElem?_eq_getElem hk, Option.bind_some, hcell]
  · rw [get?_aggregate, getElem?_flatten_append hk, Option.bind_some,
      cell?_aggregate_append hreserved _ hname, hcell]

/-- A look-up under a new field finds a missing cell in the rows of the first records. -/
lemma get?_aggregate_of_later {k : Nat} (hk : k < sets.flatten.length) {name : String}
    (hmem : name ∈ payloadColumns (sets ++ more).flatten)
    (hlater : name ∉ payloadColumns sets.flatten) :
    (aggregate (sets ++ more)).get? k name = some .missing := by
  rw [get?_aggregate, getElem?_flatten_append hk, Option.bind_some,
    cell?_aggregate_of_later (List.getElem_mem hk) hmem hlater]

end More

/-- The table of all records depends only on their sequence, of which it is the union. The fields of
the first records stand in front of those of more records, and every look-up in a row of the first
records gives the same cell as before, or a missing one under a field that is new. -/
theorem aggregate_isUnion (sets : List (List Record)) :
    (∀ regrouped : List (List Record), regrouped.flatten = sets.flatten →
        aggregate regrouped = aggregate sets) ∧
      (aggregate sets).IsUnionOf sets.flatten ∧
      ∀ more : List (List Record),
        (∀ r ∈ (sets ++ more).flatten, ∀ f ∈ r.fields, f.1 ≠ "source" ∧ f.1 ≠ "dataset") →
          payloadColumns sets.flatten <+: payloadColumns (sets ++ more).flatten ∧
            ∀ k < sets.flatten.length,
              (∀ name ∈ (aggregate sets).columns, ∃ cell,
                (aggregate sets).get? k name = some cell ∧
                  (aggregate (sets ++ more)).get? k name = some cell) ∧
              ∀ name ∈ payloadColumns (sets ++ more).flatten,
                name ∉ payloadColumns sets.flatten →
                  (aggregate (sets ++ more)).get? k name = some .missing := by
  refine ⟨?regrouped, isUnionOf_aggregate sets, ?more⟩
  case regrouped =>
    intro regrouped hflatten
    rw [aggregate, aggregate, hflatten]
  case more =>
    intro more hreserved
    refine ⟨payloadColumns_isPrefix sets more, fun k hk => ⟨?_, ?_⟩⟩
    · intro name hname
      exact exists_get?_aggregate_append hreserved hk hname
    · intro name hmem hlater
      exact get?_aggregate_of_later hk hmem hlater

/-- A result that was measured first. -/
def earlierSets : List (List Record) :=
  [[⟨.quartz, "2_6-eccs", [("size", .int 200), ("duration", .int 2)]⟩]]

/-- A result that brings a field of its own, and one field twice. -/
def laterSets : List (List Record) :=
  [[⟨.portmatching, "10_5-eccs", [("commit", .text "a"), ("size", .int 7), ("size", .int 8)]⟩]]

/-- The first row keeps its size, and the new column is missing there. -/
theorem aggregate_isUnion_earlierSets :
    (∀ r ∈ (earlierSets ++ laterSets).flatten, ∀ f ∈ r.fields, f.1 ≠ "source" ∧ f.1 ≠ "dataset") ∧
      payloadColumns (earlierSets ++ laterSets).flatten = ["size", "duration", "commit"] ∧
        (∃ cell, (aggregate earlierSets).get? 0 "size" = some cell ∧
          (aggregate (earlierSets ++ laterSets)).get? 0 "size" = some cell) ∧
            (aggregate (earlierSets ++ laterSets)).get? 0 "commit" = some .missing := by
  have hreserved : ∀ r ∈ (earlierSets ++ laterSets).flatten, ∀ f ∈ r.fields,
      f.1 ≠ "source" ∧ f.1 ≠ "dataset" := by decide
  obtain ⟨-, hrows⟩ := (aggregate_isUnion earlierSets).2.2 laterSets hreserved
  obtain ⟨hkept, hnew⟩ := hrows 0 (by decide)
  exact ⟨hreserved, by decide, hkept "size" (by decide), hnew "commit" (by decide) (by decide)⟩

end CircuitBench
