import Mathlib
import CircuitBench.Report.Export
import CircuitBench.Proofs.Json.Numbers
import CircuitBench.Proofs.Json.Values
import CircuitBench.Proofs.Results.Keys

/-!
# Exported tables are read from their JSON

The JSON of a table is read as a list of objects with cells, one for each row and in their order
(`readWholeText_json`). An object has one member for each name, with what JSON can tell of its cell
(`Cell.inJson`): integers and floats keep apart, and a float that is not finite is missing.
-/

namespace CircuitBench

/-- What JSON tells of a cell: a float that is not finite is missing there. -/
def Cell.inJson : Cell → Cell
  | .float x => if Number.isFinite x then .float x else .missing
  | c => c

namespace Json

/-! ### Readers -/

/-- The cell of a number: an integer unless it has a point or an exponent. -/
def NumberToken.cell (t : NumberToken) : Cell :=
  match t.int? with
  | some i => .int i
  | none => .float t.float

/-- A cell: a string, `null` or a number. -/
def readScalar : Reader Cell := fun cs =>
  match skipSpace cs with
  | '"' :: rest => (readStringBody rest).map fun (s, rest) => (.text (String.ofList s), rest)
  | 'n' :: rest => (readWord ['u', 'l', 'l'] rest).map fun (_, rest) => (.missing, rest)
  | rest => (scanNumber rest).map fun (t, rest) => (t.cell, rest)

/-- One more member of an object of cells; no key may stand there twice. -/
def rowMember (row : List (String × Cell)) (key : String) : Reader (List (String × Cell)) :=
  field (row.lookup key) readScalar fun cell => row ++ [(key, cell)]

/-- An object of cells. -/
def readRow : Reader (List (String × Cell)) :=
  readRecord (fun _ => .error .mismatch) [] rowMember .ok

/-- A list of objects of cells. -/
def readRows : Reader (List (List (String × Cell))) :=
  readList readRow

/-! ### Cells -/

/-- The text of a number starts with a sign or a digit. -/
lemma NumberToken.WellFormed.exists_cons {t : NumberToken} (h : t.WellFormed) :
    ∃ c tail, t.text = c :: tail ∧ (c = '-' ∨ c.isDigit = true) := by
  have hall := Number.all_of_isDigits h.whole
  obtain ⟨c, cs, hcs⟩ := List.exists_cons_of_ne_nil (Number.ne_nil_of_isDigits h.whole)
  rw [hcs, List.all_cons, Bool.and_eq_true] at hall
  cases hsign : t.negative with
  | true => exact ⟨'-', _, by rw [NumberToken.text, hsign]; rfl, .inl rfl⟩
  | false => exact ⟨c, _, by rw [NumberToken.text, hsign, hcs]; rfl, .inr hall.1⟩

/-- A written number is read as its cell. -/
lemma readScalar_text {t : NumberToken} (ht : t.WellFormed) {rest : List Char} (h : Ends rest) :
    readScalar (' ' :: (t.text ++ rest)) = .ok (t.cell, rest) := by
  have hscan := scanNumber_text ht h
  obtain ⟨c, tail, htext, hc⟩ := ht.exists_cons
  have hother : ∀ d : Char, d ≠ '-' → d.isDigit = false → c ≠ d := by
    rintro d hminus hdigit rfl
    rcases hc with rfl | hc
    · exact hminus rfl
    · rw [hdigit] at hc
      cases hc
  have hspace : isSpace c = false := by
    simp only [isSpace, Bool.or_eq_false_iff, beq_eq_false_iff_ne]
    exact ⟨⟨⟨hother _ (by decide) (by decide), hother _ (by decide) (by decide)⟩,
      hother _ (by decide) (by decide)⟩, hother _ (by decide) (by decide)⟩
  have hblank : [' '].all isSpace = true := rfl
  have hskip : skipSpace (' ' :: (t.text ++ rest)) = c :: (tail ++ rest) := by
    rw [htext]
    exact skipSpace_append hblank hspace _
  rw [htext, List.cons_append] at hscan
  unfold readScalar
  rw [hskip]
  split
  · next heq => exact absurd (List.cons.inj heq).1 (hother _ (by decide) (by decide))
  · next heq => exact absurd (List.cons.inj heq).1 (hother _ (by decide) (by decide))
  · rw [hscan]
    rfl

/-- A missing cell is read from `null`. -/
lemma readScalar_null (rest : List Char) :
    readScalar (' ' :: ("null".toList ++ rest)) = .ok (.missing, rest) := rfl

/-- A written cell is read as what JSON tells of it. -/
lemma readScalar_json (c : Cell) {rest : List Char} (h : Ends rest) :
    readScalar (' ' :: (c.json ++ rest)) = .ok (c.inJson, rest) := by
  cases c with
  | int i =>
    have hread := readScalar_text (wellFormed_intToken i) h
    rw [text_intToken, NumberToken.cell, int?_intToken] at hread
    exact hread
  | float x =>
    cases hx : Number.isFinite x with
    | true =>
      obtain ⟨t, htext, hformed, hint, hfloat⟩ := exists_token_of_isFinite hx
      have hread := readScalar_text hformed h
      rw [NumberToken.cell, hint] at hread
      dsimp only at hread
      rw [hfloat] at hread
      rw [Cell.json, htext, Cell.inJson, hx, if_pos rfl]
      exact hread
    | false =>
      have htext : Number.jsonText x = none := by
        rw [Number.jsonText, hx]
        rfl
      rw [Cell.json, htext, Cell.inJson, hx, if_neg Bool.false_ne_true]
      exact readScalar_null rest
  | text s =>
    have hskip : skipSpace (' ' :: (quote s.toList ++ rest)) =
        '"' :: (s.toList.flatMap escape ++ '"' :: rest) := by
      simp [quote, skipSpace, isSpace]
    rw [Cell.json, readScalar]
    simp only [hskip, readStringBody_quoted, Except.map, String.ofList_toList]
    rfl
  | missing => exact readScalar_null rest

/-! ### Objects -/

/-- The written members of a row. -/
def rowParts (row : List (String × Cell)) : List (String × List Char) :=
  row.map fun p => (p.1, ' ' :: p.2.json)

/-- What JSON tells of named cells. -/
def shown (row : List (String × Cell)) : List (String × Cell) :=
  row.map fun p => (p.1, p.2.inJson)

/-- Members are read one after the other when their keys are all different. -/
lemma membersRead_rowParts {before row : List (String × Cell)}
    (h : (before.map Prod.fst ++ row.map Prod.fst).Nodup) :
    MembersRead rowMember before (rowParts row) (before ++ shown row) := by
  induction row generalizing before with
  | nil =>
    rw [shown, List.map_nil, List.append_nil]
    exact .nil before
  | cons p row ih =>
    obtain ⟨key, cell⟩ := p
    have hkey : before.lookup key = none := by
      refine List.lookup_eq_none_iff.2 fun q hq => ?_
      have hmem : q.1 ∈ before.map Prod.fst := List.mem_map_of_mem hq
      have hne := (List.nodup_append.1 h).2.2 q.1 hmem key List.mem_cons_self
      simpa using Ne.symm hne
    have hrest : ((before ++ [(key, cell.inJson)]).map Prod.fst ++ row.map Prod.fst).Nodup := by
      simpa using h
    have hmembers := ih hrest
    rw [List.append_assoc] at hmembers
    refine .cons (fun rest hends => ?_) hmembers
    have hmark : skipMark ':' (':' :: (' ' :: (cell.json ++ rest))) =
        .ok (' ' :: (cell.json ++ rest)) := by
      rw [skipMark, skipSpace_cons (by decide)]
      rfl
    unfold rowMember field
    rw [hkey]
    change (skipMark ':' (':' :: (' ' :: (cell.json ++ rest))) >>= fun start =>
      readScalar start >>= fun r => .ok (before ++ [(key, r.1)], r.2)) = _
    rw [hmark]
    change (readScalar (' ' :: (cell.json ++ rest)) >>= fun r =>
      .ok (before ++ [(key, r.1)], r.2)) = _
    rw [readScalar_json cell hends]
    rfl

/-- Items on lines of their own are parts in brackets with line ends and margins between them. -/
lemma block_eq_bracketed (opening closing : Char) (margin : List Char) (items : List (List Char)) :
    block opening closing margin items =
      bracketed opening closing ('\n' :: (margin ++ [' ', ' '])) ('\n' :: margin) items := by
  have hjoin : ∀ (gap item : List Char) (others : List (List Char)),
      Text.join [',', '\n'] ((item :: others).map (gap ++ ·)) =
        gap ++ (item ++ commaParts ('\n' :: gap) others) := by
    intro gap item others
    induction others generalizing item with
    | nil => simp [commaParts]
    | cons other others ih =>
      rw [List.map_cons, List.map_cons, Text.join_cons_cons, ← List.map_cons, ih]
      simp [commaParts]
  cases items with
  | nil => rfl
  | cons item others =>
    rw [block, List.isEmpty_cons, if_neg Bool.false_ne_true, hjoin]
    simp [bracketed]

/-- The members of a row have different keys. -/
lemma nodup_rowMembers (columns : List String) (row : List Cell) :
    ((rowMembers columns row).map Prod.fst).Nodup := by
  rw [rowMembers, List.map_map]
  simpa [Function.comp_def] using nodup_sortedDistinct ((columns.zip row).map Prod.fst)

/-- A written row is read as its members. -/
lemma reads_rowJson (columns : List String) (row : List Cell) :
    Reads readRow (rowJson columns row) (shown (rowMembers columns row)) := by
  have hmembers : MembersRead rowMember [] (rowParts (rowMembers columns row))
      ([] ++ shown (rowMembers columns row)) :=
    membersRead_rowParts (nodup_rowMembers columns row)
  have htext : rowJson columns row = bracketed '\x7b' '\x7d' ['\n', ' ', ' ', ' ', ' ']
      ['\n', ' ', ' '] ((rowParts (rowMembers columns row)).map memberText) := by
    rw [rowJson, block_eq_bracketed, rowParts, List.map_map]
    rfl
  rw [htext]
  exact reads_bracketed_record (by decide) (by decide) hmembers rfl

/-- The JSON of a table is read as the members of its rows. -/
theorem readWholeText_json (t : Table) :
    readWholeText readRows t.json =
      .ok (t.rows.map fun row => shown (rowMembers t.columns row)) := by
  have hrows : Reads readRows t.json (t.rows.map fun row => shown (rowMembers t.columns row)) := by
    rw [Table.json, block_eq_bracketed]
    exact reads_bracketed_list (by decide) (by decide) fun row _ => reads_rowJson t.columns row
  have hread := hrows.reads [] (Text.stops_nil _)
  rw [List.append_nil] at hread
  rw [readWholeText, hread]
  rfl

end Json

end CircuitBench
