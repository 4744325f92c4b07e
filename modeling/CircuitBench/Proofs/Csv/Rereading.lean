import Mathlib
import CircuitBench.Results.Loading
import CircuitBench.Proofs.Csv.Scanning
import CircuitBench.Proofs.Results.Shape

/-!
# An exported table is read back

The file of a table is its names and its rows as lines of fields, whose scanner finds the bytes of
the same fields. What is left of the way back is to decode them. Blanks at the ends of a field are
not kept, and a mark of byte order in front of the first name is no part of it, so tables are read
back when they have neither (`Table.IsTrimmed`, `read_csv`).
-/

namespace CircuitBench

/-- No name and no written cell has blanks at its ends. -/
structure Table.IsTrimmed (t : Table) : Prop where
  names : ∀ name ∈ t.columns, Text.IsTrimmed name.toList
  cells : ∀ row ∈ t.rows, ∀ cell ∈ row, Text.IsTrimmed cell.written

namespace Csv

open Utf8 (encode encode_cons encode_nil encode_append)

/-! ### Fields -/

/-- The bytes of characters that are no blanks are no blanks. -/
lemma isBlankByte_of_mem_encodeChar {c : Char} (hc : Text.isBlank c = false) {b : UInt8}
    (hb : b ∈ String.utf8EncodeChar c) : isBlankByte b = false := by
  have hbyte : ∀ a : Char, a.toNat < 128 → Text.isBlank a = true → b ≠ UInt8.ofNat a.toNat := by
    rintro a ha hblank rfl
    rw [(Utf8.ofNat_mem_encodeChar_iff ha).1 hb, hblank] at hc
    cases hc
  have h1 : b ≠ 9 := hbyte '\t' (by decide) (by decide)
  have h2 : b ≠ 10 := hbyte '\n' (by decide) (by decide)
  have h3 : b ≠ 12 := hbyte '\x0c' (by decide) (by decide)
  have h4 : b ≠ 13 := hbyte '\r' (by decide) (by decide)
  have h5 : b ≠ 32 := hbyte ' ' (by decide) (by decide)
  simp [isBlankByte, h1, h2, h3, h4, h5]

/-- Bytes stay that do not start with a blank. -/
lemma dropWhile_isBlankByte {bytes : List UInt8} (h : ∀ b ∈ bytes.head?, isBlankByte b = false) :
    bytes.dropWhile isBlankByte = bytes := by
  cases bytes with
  | nil => rfl
  | cons b bytes => exact List.dropWhile_cons_of_neg (by simp [h b rfl])

/-- The bytes of a trimmed text are trimmed. -/
lemma trimBytes_encode {cs : List Char} (h : Text.IsTrimmed cs) :
    trimBytes (encode cs) = encode cs := by
  have hfront : ∀ b ∈ (encode cs).head?, isBlankByte b = false := by
    intro b hb
    obtain ⟨c, hc, hbc⟩ := Utf8.mem_encodeChar_of_head? hb
    exact isBlankByte_of_mem_encodeChar (h.front c hc) hbc
  have hback : ∀ b ∈ (encode cs).reverse.head?, isBlankByte b = false := by
    intro b hb
    obtain ⟨c, hc, hbc⟩ := Utf8.mem_encodeChar_of_getLast? hb
    exact isBlankByte_of_mem_encodeChar (h.back c hc) hbc
  rw [trimBytes, dropWhile_isBlankByte hfront, dropWhile_isBlankByte hback, List.reverse_reverse]

/-- The bytes of trimmed texts are decoded to the texts. -/
lemma decodeFields_encode (position : Position) (place : Nat) {texts : List (List Char)}
    (h : ∀ cs ∈ texts, Text.IsTrimmed cs) :
    decodeFields position place (texts.map encode) = .ok texts := by
  induction texts generalizing place with
  | nil => rfl
  | cons cs texts ih =>
    rw [List.map_cons, decodeFields]
    simp only [Utf8.decode_encode]
    rw [ih (place + 1) fun ds hds => h ds (List.mem_cons_of_mem cs hds),
      (h cs List.mem_cons_self).trim_eq]
    rfl

/-- Records that hold the bytes of trimmed rows are decoded to the rows. -/
lemma decodeRows_encode {expected : Nat} (number : Nat) {raws : List RawRecord}
    {rows : List (List (List Char))}
    (hraws : raws.map RawRecord.fields = rows.map fun row => row.map encode)
    (hlength : ∀ row ∈ rows, row.length = expected)
    (htrimmed : ∀ row ∈ rows, ∀ cs ∈ row, Text.IsTrimmed cs) :
    decodeRows expected number raws = .ok rows := by
  induction rows generalizing raws number with
  | nil =>
    obtain rfl := List.map_eq_nil_iff.1 hraws
    rfl
  | cons row rows ih =>
    rw [List.map_cons] at hraws
    obtain ⟨raw, others, rfl, hraw, hothers⟩ := List.map_eq_cons_iff.1 hraws
    have hfields : raw.fields.map trimBytes = row.map encode := by
      rw [hraw, List.map_map]
      exact List.map_congr_left fun cs hcs =>
        trimBytes_encode (htrimmed row List.mem_cons_self cs hcs)
    have hexpected : raw.fields.length = expected := by
      rw [hraw, List.length_map, hlength row List.mem_cons_self]
    rw [decodeRows, if_neg (not_not_intro hexpected), hfields,
      decodeFields_encode _ 0 (htrimmed row List.mem_cons_self),
      ih (number + 1) hothers (fun row hmem => hlength row (List.mem_cons_of_mem _ hmem))
        fun row hmem => htrimmed row (List.mem_cons_of_mem _ hmem)]
    rfl

/-! ### The start of a file -/

/-- A record starts with an ordinary character only when its first field does. -/
lemma head?_of_record {c : Char} (hc : needsQuotes c = false) {first : List Char}
    {others : List (List Char)} {rest : List Char}
    (h : (record (first :: others) ++ rest).head? = some c) : first.head? = some c := by
  have hne : ∀ d, needsQuotes d = true → some d ≠ some c := by
    rintro d hd heq
    rw [Option.some.inj heq, hc] at hd
    cases hd
  cases first with
  | nil =>
    cases others with
    | nil => exact absurd h (hne '"' (by decide))
    | cons second others =>
      rw [record, List.map_cons, List.map_cons, Text.join_cons_cons] at h
      exact absurd h (hne ',' (by decide))
  | cons d ds =>
    obtain ⟨tail, htail⟩ := Text.exists_join_cons [','] (field (d :: ds)) (others.map field)
    rw [record, List.map_cons, htail, field] at h
    by_cases hquotes : (d :: ds).any needsQuotes = true
    · rw [if_pos hquotes] at h
      exact absurd h (hne '"' (by decide))
    · rw [if_neg hquotes] at h
      exact h

/-- A file without a mark of byte order is scanned from its first byte on. -/
lemma scan_encode {cs : List Char} (h : cs.head? ≠ some '\uFEFF') :
    scan comma (encode cs) = scanFrom comma ⟨.startRecord, [], [], 0, 1, 0, 1⟩ (encode cs) := by
  unfold scan
  split
  next rest hbytes => exact absurd (Utf8.head?_of_encode_eq_mark hbytes) h
  next => rfl

/-! ### Tables -/

/-- A header and rows as long as it are read from their records, when no text has blanks at its ends
and the first has no mark of byte order in front. -/
lemma read_records {header : List (List Char)} {rows : List (List (List Char))}
    (hheader : header ≠ []) (hlength : ∀ row ∈ rows, row.length = header.length)
    (htrimmed : ∀ row ∈ header :: rows, ∀ cs ∈ row, Text.IsTrimmed cs)
    (hmark : ∀ cs ∈ header.head?, cs.head? ≠ some '\uFEFF') :
    Sheet.read comma (encode ((header :: rows).flatMap record)) = .ok ⟨header, rows⟩ := by
  have hstart : Scanner.Holds ⟨.startRecord, [], [], 0, 1, 0, 1⟩ .startRecord [] [] :=
    ⟨rfl, rfl, rfl⟩
  have hne : ∀ row ∈ header :: rows, row ≠ [] := by
    intro row hrow
    rcases List.mem_cons.1 hrow with rfl | hrow
    · exact hheader
    · rintro rfl
      exact hheader (List.eq_nil_of_length_eq_zero (hlength [] hrow).symm)
  have hunmarked : ((header :: rows).flatMap record).head? ≠ some '\uFEFF' := by
    obtain ⟨first, others, rfl⟩ := List.exists_cons_of_ne_nil hheader
    intro hhead
    rw [List.flatMap_cons] at hhead
    exact hmark first rfl (head?_of_record (by decide) hhead)
  -- The header is the first record, and the rows are the others.
  have hscan := fields_scanFrom_records hstart hne
  rw [List.map_cons] at hscan
  obtain ⟨raw, raws, hraws, hraw, hothers⟩ := List.map_eq_cons_iff.1 hscan
  have hnames : decodeFields ⟨0, raw.line, raw.byte⟩ 0 raw.fields = .ok header := by
    rw [hraw]
    exact decodeFields_encode _ 0 (htrimmed header List.mem_cons_self)
  have hrows : decodeRows raw.fields.length 1 raws = .ok rows := by
    refine decodeRows_encode 1 hothers (fun row hrow => ?_) fun row hrow =>
      htrimmed row (List.mem_cons_of_mem _ hrow)
    rw [hraw, List.length_map, hlength row hrow]
  unfold Sheet.read
  rw [scan_encode hunmarked, hraws]
  simp only [hnames, hrows]
  rfl

/-- A table is the header and the rows that are read from its file, as result files with commas
are. -/
theorem read_csv {t : Table} {path : String} (hpath : delimiterFor path = comma)
    (hcolumns : t.columns ≠ [])
    (hrectangular : t.Rectangular) (htrimmed : t.IsTrimmed)
    (hmark : ∀ name ∈ t.columns.head?, name.toList.head? ≠ some '\uFEFF') :
    Sheet.read (delimiterFor path) (encode t.csv) =
      .ok ⟨t.columns.map String.toList, t.rows.map fun row => row.map Cell.written⟩ := by
  have hcsv : t.csv = ((t.columns.map String.toList) ::
      t.rows.map fun row => row.map Cell.written).flatMap record := by
    rw [Table.csv, List.flatMap_cons, List.flatMap_map]
  rw [hpath, hcsv]
  refine read_records (by simpa using hcolumns) ?_ ?_ ?_
  · refine List.forall_mem_map.2 fun cells hcells => ?_
    rw [List.length_map, List.length_map, hrectangular cells hcells]
  · refine List.forall_mem_cons.2 ⟨List.forall_mem_map.2 htrimmed.names, ?_⟩
    exact List.forall_mem_map.2 fun cells hcells =>
      List.forall_mem_map.2 (htrimmed.cells cells hcells)
  · rw [List.head?_map]
    intro cs hcs
    obtain ⟨name, hname, rfl⟩ := Option.map_eq_some_iff.1 hcs
    exact hmark name hname

/-- A table with one name twice, texts for which fields are quoted, and a cell without text. -/
def awkwardTable : Table :=
  ⟨["a,b", "a,b", "say \"x\""],
    [[.text "1\r\n2", .missing, .text "\"\""], [.text ",", .int 7, .text "x\n,\ny"]]⟩

/-- A lone column without a name and without text. -/
def blankTable : Table :=
  ⟨[""], [[.missing], [.text ""]]⟩

/-- Both are read back: lines that would be blank are none, and quotes keep the ends of lines. -/
theorem read_csv_awkward :
    Sheet.read (delimiterFor "awkward.csv") (encode awkwardTable.csv) =
      .ok ⟨[['a', ',', 'b'], ['a', ',', 'b'], ['s', 'a', 'y', ' ', '"', 'x', '"']],
        [[['1', '\r', '\n', '2'], [], ['"', '"']],
          [[','], ['7'], ['x', '\n', ',', '\n', 'y']]]⟩ ∧
    Sheet.read (delimiterFor "blank.csv") (encode blankTable.csv) = .ok ⟨[[]], [[[]], [[]]]⟩ :=
  ⟨read_csv (by decide) (by decide) (by decide) ⟨by decide, by decide⟩ (by decide),
    read_csv (by decide) (by decide) (by decide) ⟨by decide, by decide⟩ (by decide)⟩

end Csv

end CircuitBench
