import Mathlib
import CircuitBench.Results.Loading
import CircuitBench.Proofs.Outcomes

/-!
# Reading one result file

A result file is read as a sheet of text and each row of it becomes a record. The reader of sheets
takes rows only that are as wide as the header (`Csv.Sheet.length_eq_of_read`), so that all records
of a file have the same fields. What comes of reading a file is a file that is loaded
(`isLoaded_of_readResultFile`) or an error of reading (`ofReading_of_readResultFile`).
-/

namespace CircuitBench

/-! ### Widths of rows -/

namespace Csv

/-- As many fields are decoded as there are. -/
lemma length_eq_of_decodeFields {position : Position} {place : Nat} {raws : List (List UInt8)}
    {texts : List (List Char)} (h : decodeFields position place raws = .ok texts) :
    texts.length = raws.length := by
  induction raws generalizing place texts with
  | nil =>
    cases h
    rfl
  | cons raw raws ih =>
    rw [decodeFields] at h
    cases hdecode : Utf8.decode raw with
    | error offset =>
      rw [hdecode] at h
      cases h
    | ok cs =>
      rw [hdecode] at h
      obtain ⟨others, hothers, h⟩ := of_bind_eq_ok h
      cases h
      rw [List.length_cons, List.length_cons, ih hothers]

/-- The rows that are decoded have the number of fields that is asked for. -/
lemma length_eq_of_decodeRows {expected number : Nat} {raws : List RawRecord}
    {rows : List (List (List Char))} (h : decodeRows expected number raws = .ok rows) :
    ∀ row ∈ rows, row.length = expected := by
  induction raws generalizing number rows with
  | nil =>
    cases h
    intro row hrow
    cases hrow
  | cons raw raws ih =>
    rw [decodeRows] at h
    by_cases hlength : raw.fields.length = expected
    · rw [if_neg (not_not_intro hlength)] at h
      obtain ⟨row, hrow, h⟩ := of_bind_eq_ok h
      obtain ⟨others, hothers, h⟩ := of_bind_eq_ok h
      cases h
      intro r hr
      obtain rfl | hr := List.mem_cons.1 hr
      · rw [length_eq_of_decodeFields hrow, List.length_map, hlength]
      · exact ih hothers r hr
    · rw [if_pos hlength] at h
      cases h

/-- The rows of a sheet are as wide as its header. -/
theorem Sheet.length_eq_of_read {delimiter : UInt8} {bytes : List UInt8} {sheet : Sheet}
    (h : Sheet.read delimiter bytes = .ok sheet) :
    ∀ row ∈ sheet.rows, row.length = sheet.header.length := by
  rw [Sheet.read] at h
  cases hscan : scan delimiter bytes with
  | nil =>
    rw [hscan] at h
    cases h
    intro row hrow
    cases hrow
  | cons first others =>
    rw [hscan] at h
    obtain ⟨header, hheader, h⟩ := of_bind_eq_ok h
    obtain ⟨rows, hrows, h⟩ := of_bind_eq_ok h
    cases h
    intro row hrow
    rw [length_eq_of_decodeRows hrows row hrow, length_eq_of_decodeFields hheader]

end Csv

/-! ### Rows and records -/

/-- The fields of a row under the columns that are no tags. -/
def untagged (header row : List (List Char)) : List (String × List Char) :=
  ((header.map String.ofList).zip row).filter fun p => !isTagColumn p.1

/-- A record has the source and the data set of its file, and the fields of a row in the order of
the header, without tags. The sizes and durations among them are numbers where they can be, and all
other fields are texts or missing. -/
structure Record.IsRow (source : Source) (dataset : String) (header row : List (List Char))
    (r : Record) : Prop where
  source_eq : r.source = source
  dataset_eq : r.dataset = dataset
  columns_eq : r.fields.map Prod.fst = (header.map String.ofList).filter (!isTagColumn ·)
  cells : List.Forall₂ (fun field p => field.1 = p.1 ∧ field.2 =
    if p.1 = sizeColumn ∨ p.1 = durationColumn then Cell.infer p.2 else Cell.verbatim p.2)
    r.fields (untagged header row)
  untyped : ∀ field ∈ r.fields, field.1 ≠ sizeColumn → field.1 ≠ durationColumn →
    field.2 = .missing ∨ ∃ s, field.2 = .text s

/-- A record that was read has no field that is named as the source or the data set, and belongs to
the data set of its file. -/
structure Record.IsTagged (dataset : String) (r : Record) : Prop where
  dataset_eq : r.dataset = dataset
  fields_ne : ∀ f ∈ r.fields, f.1 ≠ sourceColumn ∧ f.1 ≠ datasetColumn

/-- A file is what a path leads to: it has the path and the given source and data set, and a record
for each row of the sheet that the bytes hold. -/
structure ResultFile.IsLoaded (t : Tree) (cwd : Location) (source : Source) (path dataset : String)
    (file : ResultFile) : Prop where
  source_eq : file.source = source
  path_eq : file.path = path
  dataset_eq : file.dataset = dataset
  records : ∃ bytes sheet, t.readBytes cwd path = .ok bytes ∧
    Csv.Sheet.read (delimiterFor path) bytes = .ok sheet ∧
      List.Forall₂ (fun row r => Record.IsRow source dataset sheet.header row r)
        sheet.rows file.records

/-- The fields of a record are those that are no tags, each with its cell. -/
lemma readFields_eq (header row : List (List Char)) :
    readFields header row = (untagged header row).map fun p => (p.1, readCell p.1 p.2) := by
  rw [readFields, untagged]
  induction (header.map String.ofList).zip row with
  | nil => rfl
  | cons p others ih =>
    obtain ⟨column, raw⟩ := p
    rw [List.filterMap_cons, List.filter_cons, ih]
    by_cases htag : isTagColumn column = true
    · simp [htag]
    · simp [htag]

/-- The record of a row as wide as the header. -/
lemma isRow_readFields (source : Source) (dataset : String) {header row : List (List Char)}
    (hlength : row.length = header.length) :
    Record.IsRow source dataset header row ⟨source, dataset, readFields header row⟩ := by
  have hcell : ∀ column raw, readCell column raw =
      if column = sizeColumn ∨ column = durationColumn then Cell.infer raw
      else Cell.verbatim raw := fun column raw => by simp [readCell]
  refine ⟨rfl, rfl, ?_, ?_, ?_⟩
  · have hzip : ((header.map String.ofList).zip row).map Prod.fst = header.map String.ofList :=
      List.map_fst_zip (by simp [hlength])
    dsimp only
    rw [readFields_eq, List.map_map, ← hzip, List.filter_map]
    rfl
  · dsimp only
    rw [readFields_eq, List.forall₂_map_left_iff, List.forall₂_same]
    exact fun p _ => ⟨rfl, hcell p.1 p.2⟩
  · intro field hfield hsize hduration
    dsimp only at hfield
    rw [readFields_eq] at hfield
    obtain ⟨p, -, rfl⟩ := List.mem_map.1 hfield
    dsimp only at hsize hduration ⊢
    rw [hcell, if_neg (by simp [hsize, hduration]), Cell.verbatim]
    split
    · exact Or.inl rfl
    · exact Or.inr ⟨_, rfl⟩

/-! ### The outcome of reading -/

section Reading

variable {t : Tree} {cwd : Location} {source : Source} {path : String}

/-- A file that is read is what the path and the bytes behind it give. -/
theorem isLoaded_of_readResultFile {file : ResultFile}
    (h : readResultFile t cwd source path = .ok file) :
    file.IsLoaded t cwd source path (datasetOf path) := by
  rw [readResultFile] at h
  cases hbytes : t.readBytes cwd path with
  | error cause =>
    rw [hbytes] at h
    cases cause <;> cases h
  | ok bytes =>
    rw [hbytes] at h
    dsimp only at h
    cases hsheet : Csv.Sheet.read (delimiterFor path) bytes with
    | error cause =>
      rw [hsheet] at h
      cases h
    | ok sheet =>
      rw [hsheet] at h
      cases h
      refine ⟨rfl, rfl, rfl, bytes, sheet, hbytes, hsheet, ?_⟩
      rw [recordsOf, List.forall₂_map_right_iff, List.forall₂_same]
      exact fun row hrow =>
        isRow_readFields source (datasetOf path) (Csv.Sheet.length_eq_of_read hsheet row hrow)

end Reading

/-! ### Tags -/

/-- A record that a row was read as is tagged. -/
lemma Record.IsRow.isTagged {source : Source} {dataset : String} {header row : List (List Char)}
    {r : Record} (h : Record.IsRow source dataset header row r) : r.IsTagged dataset := by
  refine ⟨h.dataset_eq, fun f hf => ?_⟩
  have hname : f.1 ∈ (header.map String.ofList).filter (!isTagColumn ·) := by
    rw [← h.columns_eq]
    exact List.mem_map_of_mem hf
  simpa [isTagColumn] using (List.mem_filter.1 hname).2

/-- The records of a file that was read are tagged. -/
lemma ResultFile.IsLoaded.isTagged {t : Tree} {cwd : Location} {source : Source}
    {path dataset : String} {file : ResultFile} (h : file.IsLoaded t cwd source path dataset) :
    ∀ r ∈ file.records, r.IsTagged file.dataset := by
  obtain ⟨bytes, sheet, -, -, hrows⟩ := h.records
  rw [h.dataset_eq]
  generalize sheet.rows = rows, file.records = records at hrows
  induction hrows with
  | nil => exact nofun
  | cons hrow _ ih => exact List.forall_mem_cons.2 ⟨hrow.isTagged, ih⟩

end CircuitBench
