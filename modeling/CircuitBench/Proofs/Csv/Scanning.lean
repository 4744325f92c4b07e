import Mathlib
import CircuitBench.Csv.Record
import CircuitBench.Report.Export
import CircuitBench.Proofs.Text.Pieces
import CircuitBench.Proofs.Text.Utf8

/-!
# Written records are scanned back

The scanner for records reads the bytes of a written field up to the byte that ends it, whether the
field is quoted or not, and has the bytes of the field's text then (`exists_passes_field`). From
this follow written lines, of which only one that would be blank needs two quotes, and tables of
lines (`fields_scanFrom_records`).

What a scanner knows of places in the file decides nothing about fields. So scanners are told apart
here by their phase, the bytes of the field and the fields before it (`Scanner.Holds`).
-/

namespace CircuitBench.Csv

open Utf8 (encode encode_cons encode_nil encode_append)
open String (utf8EncodeChar)

/-- The byte between fields. -/
def comma : UInt8 := 44

/-! ### Scanners without places -/

/-- A scanner stands in a phase, with the bytes of a field and the fields before it, both
backwards. -/
structure Scanner.Holds (s : Scanner) (phase : Phase) (bytes : List UInt8)
    (fields : List (List UInt8)) : Prop where
  phase_eq : s.phase = phase
  bytes_eq : s.bytes = bytes
  fields_eq : s.fields = fields

/-- A scanner reads some bytes, ends no record, and stands where another scanner does then. -/
def Passes (s : Scanner) (bytes : List UInt8) (s' : Scanner) : Prop :=
  ∀ rest, scanFrom comma s (bytes ++ rest) = scanFrom comma s' rest

/-- No bytes lead nowhere. -/
lemma Passes.refl (s : Scanner) : Passes s [] s :=
  fun _ => rfl

/-- Bytes are read one part after the other. -/
lemma Passes.append {s s' s'' : Scanner} {bytes more : List UInt8} (h : Passes s bytes s')
    (hmore : Passes s' more s'') : Passes s (bytes ++ more) s'' := by
  intro rest
  rw [List.append_assoc, h, hmore]

/-- A byte that ends no record is read in one step. -/
lemma passes_of_step {s s' : Scanner} {b : UInt8} (h : s.step comma b = (s', none)) :
    Passes s [b] s' := by
  intro rest
  rw [List.singleton_append, scanFrom, h]

/-! ### Steps -/

/-- Outside quotes a byte counts as it is, other than a quote at the start of a field and the end of
a line at the start of a record. -/
lemma Scanner.step_eq_plain {s : Scanner} {b : UInt8} (hphase : s.phase ≠ .quoted)
    (hquote : b ≠ quoteByte) (hstart : s.phase = .startRecord → isTerminator b = false) :
    s.step comma b = s.plain comma b := by
  unfold Scanner.step
  cases hs : s.phase with
  | startRecord => simp [hquote, hstart hs]
  | startField => simp [hquote]
  | inField => rfl
  | quoted => exact absurd hs hphase
  | afterQuote => simp [hquote]

variable {s : Scanner} {phase : Phase} {before : List UInt8} {fields : List (List UInt8)}

/-- A quote at the start of a field opens a quoted field. -/
lemma Scanner.Holds.exists_passes_quote (h : s.Holds phase before fields)
    (hphase : phase = .startRecord ∨ phase = .startField) :
    ∃ s', Passes s [quoteByte] s' ∧ s'.Holds .quoted before fields := by
  refine ⟨{ s.advance quoteByte with phase := .quoted }, passes_of_step ?_, rfl, h.bytes_eq,
    h.fields_eq⟩
  unfold Scanner.step
  rcases hphase with rfl | rfl <;> rw [h.phase_eq] <;> rfl

/-- A quote inside a quoted field may close it. -/
lemma Scanner.Holds.exists_passes_closing (h : s.Holds .quoted before fields) :
    ∃ s', Passes s [quoteByte] s' ∧ s'.Holds .afterQuote before fields := by
  refine ⟨{ s.advance quoteByte with phase := .afterQuote }, passes_of_step ?_, rfl, h.bytes_eq,
    h.fields_eq⟩
  unfold Scanner.step
  rw [h.phase_eq]
  rfl

/-- The written form of a byte inside quotes. -/
def doubled (b : UInt8) : List UInt8 :=
  if b = quoteByte then [quoteByte, quoteByte] else [b]

/-- A byte inside quotes is read, a quote from two of them. -/
lemma Scanner.Holds.exists_passes_doubled (h : s.Holds .quoted before fields) (b : UInt8) :
    ∃ s', Passes s (doubled b) s' ∧ s'.Holds .quoted (b :: before) fields := by
  unfold doubled
  split_ifs with hb
  · subst hb
    obtain ⟨s', hpass, hs'⟩ := h.exists_passes_closing
    refine ⟨(s'.advance quoteByte).add .quoted quoteByte, hpass.append (passes_of_step ?_), rfl,
      congrArg (quoteByte :: ·) hs'.bytes_eq, hs'.fields_eq⟩
    unfold Scanner.step
    rw [hs'.phase_eq]
    rfl
  · refine ⟨(s.advance b).add .quoted b, passes_of_step ?_, rfl,
      congrArg (b :: ·) h.bytes_eq, h.fields_eq⟩
    unfold Scanner.step
    rw [h.phase_eq]
    simp [hb]

/-- The bytes inside quotes are read. -/
lemma Scanner.Holds.exists_passes_inside (h : s.Holds .quoted before fields) (bytes : List UInt8) :
    ∃ s', Passes s (bytes.flatMap doubled) s' ∧
      s'.Holds .quoted (bytes.reverse ++ before) fields := by
  induction bytes generalizing s before with
  | nil => exact ⟨s, .refl s, h⟩
  | cons b bytes ih =>
    obtain ⟨s', hpass, hs'⟩ := h.exists_passes_doubled b
    obtain ⟨s'', hpass', hs''⟩ := ih hs'
    refine ⟨s'', hpass.append hpass', ?_⟩
    rwa [List.reverse_cons, List.append_assoc]

/-- A byte that means nothing but itself outside quotes. -/
def isPlain (b : UInt8) : Bool :=
  !(b == comma || b == quoteByte || isTerminator b)

/-- A plain byte outside quotes is part of the field. -/
lemma Scanner.Holds.exists_passes_plain (h : s.Holds phase before fields) (hphase : phase ≠ .quoted)
    {b : UInt8} (hb : isPlain b = true) :
    ∃ s', Passes s [b] s' ∧ s'.Holds .inField (b :: before) fields := by
  simp only [isPlain, Bool.not_eq_true', Bool.or_eq_false_iff, beq_eq_false_iff_ne] at hb
  obtain ⟨⟨hcomma, hquote⟩, hterminator⟩ := hb
  refine ⟨(s.advance b).add .inField b, passes_of_step ?_, rfl,
    congrArg (b :: ·) h.bytes_eq, h.fields_eq⟩
  rw [Scanner.step_eq_plain (by rwa [h.phase_eq]) hquote fun _ => hterminator, Scanner.plain,
    if_neg (by simp [hterminator]), if_neg hcomma]

/-- Plain bytes are read as they are. -/
lemma Scanner.Holds.exists_passes_plains (h : s.Holds .inField before fields) {bytes : List UInt8}
    (hbytes : ∀ b ∈ bytes, isPlain b = true) :
    ∃ s', Passes s bytes s' ∧ s'.Holds .inField (bytes.reverse ++ before) fields := by
  induction bytes generalizing s before with
  | nil => exact ⟨s, .refl s, h⟩
  | cons b bytes ih =>
    obtain ⟨s', hpass, hs'⟩ := h.exists_passes_plain (by decide) (hbytes b List.mem_cons_self)
    obtain ⟨s'', hpass', hs''⟩ := ih hs' fun d hd => hbytes d (List.mem_cons_of_mem b hd)
    refine ⟨s'', hpass.append hpass', ?_⟩
    rwa [List.reverse_cons, List.append_assoc]

/-- A comma outside quotes ends a field. -/
lemma Scanner.Holds.exists_passes_comma (h : s.Holds phase before fields)
    (hphase : phase ≠ .quoted) :
    ∃ s', Passes s [comma] s' ∧ s'.Holds .startField [] (before.reverse :: fields) := by
  refine ⟨(s.advance comma).endField, passes_of_step ?_, rfl, rfl, ?_⟩
  · rw [Scanner.step_eq_plain (by rwa [h.phase_eq]) (by decide) fun _ => by decide]
    rfl
  · change s.bytes.reverse :: s.fields = _
    rw [h.bytes_eq, h.fields_eq]

/-- A line feed outside quotes ends a record, unless nothing of it has been read. -/
lemma Scanner.Holds.exists_scanFrom_lineFeed (h : s.Holds phase before fields)
    (hphase : phase ≠ .quoted) (hstart : phase ≠ .startRecord) :
    ∃ record s', (∀ rest, scanFrom comma s (10 :: rest) = record :: scanFrom comma s' rest) ∧
      record.fields = (before.reverse :: fields).reverse ∧ s'.Holds .startRecord [] [] := by
  refine ⟨s.record, (s.advance 10).restart, fun rest => ?_, ?_, rfl, rfl, rfl⟩
  · rw [scanFrom, Scanner.step_eq_plain (by rwa [h.phase_eq]) (by decide) fun hs =>
      absurd (h.phase_eq.symm.trans hs) hstart]
    rfl
  · change (s.bytes.reverse :: s.fields).reverse = _
    rw [h.bytes_eq, h.fields_eq]

/-! ### Written fields -/

/-- The bytes of another character hold no quote. -/
lemma flatMap_doubled_encodeChar {c : Char} (hc : c ≠ '"') :
    (utf8EncodeChar c).flatMap doubled = utf8EncodeChar c := by
  have hsingle : ∀ b ∈ utf8EncodeChar c, doubled b = [b] := by
    intro b hb
    refine if_neg ?_
    rintro rfl
    exact hc ((Utf8.ofNat_mem_encodeChar_iff (a := '"') (by decide)).1 hb)
  rw [List.flatMap_congr hsingle, List.flatMap_singleton']

/-- The bytes of a quoted field. -/
lemma encode_quote (cs : List Char) :
    encode (quote cs) = quoteByte :: ((encode cs).flatMap doubled ++ [quoteByte]) := by
  have hinside : encode (cs.flatMap fun c => if c = '"' then ['"', '"'] else [c])
      = (encode cs).flatMap doubled := by
    induction cs with
    | nil => rfl
    | cons c cs ih =>
      rw [List.flatMap_cons, encode_append, ih, encode_cons, List.flatMap_append]
      congr 1
      split_ifs with hc
      · subst hc
        rfl
      · rw [flatMap_doubled_encodeChar hc, encode_cons, encode_nil, List.append_nil]
  rw [quote, encode_cons, encode_append, hinside]
  rfl

/-- The bytes of a text that needs no quotes are plain. -/
lemma isPlain_of_mem_encode {cs : List Char} (h : cs.any needsQuotes = false) {b : UInt8}
    (hb : b ∈ encode cs) : isPlain b = true := by
  obtain ⟨c, hc, hb⟩ := Utf8.mem_encode.1 hb
  have hneeds : needsQuotes c = false := by
    rw [List.any_eq_false] at h
    simpa using h c hc
  simp only [needsQuotes, Bool.or_eq_false_iff, beq_eq_false_iff_ne] at hneeds
  obtain ⟨⟨⟨hcomma, hquote⟩, hfeed⟩, hreturn⟩ := hneeds
  have hbyte : ∀ a : Char, a.toNat < 128 → c ≠ a → b ≠ UInt8.ofNat a.toNat := by
    rintro a ha hne rfl
    exact hne ((Utf8.ofNat_mem_encodeChar_iff ha).1 hb)
  have h1 : b ≠ comma := hbyte ',' (by decide) hcomma
  have h2 : b ≠ quoteByte := hbyte '"' (by decide) hquote
  have h3 : b ≠ 10 := hbyte '\n' (by decide) hfeed
  have h4 : b ≠ 13 := hbyte '\r' (by decide) hreturn
  simp [isPlain, isTerminator, h1, h2, h3, h4]

/-- A written field is read up to its end, by a scanner that stands at the start of a field. The
scanner stays where it was when nothing was written. -/
lemma exists_passes_field (h : s.Holds phase [] fields)
    (hphase : phase = .startRecord ∨ phase = .startField) (cs : List Char) :
    ∃ s' next, Passes s (encode (field cs)) s' ∧ s'.Holds next (encode cs).reverse fields ∧
      next ≠ .quoted ∧ (next = .startRecord → phase = .startRecord ∧ cs = []) := by
  unfold field
  split_ifs with hquotes
  · obtain ⟨s₁, hopen, h₁⟩ := h.exists_passes_quote hphase
    obtain ⟨s₂, hinside, h₂⟩ := h₁.exists_passes_inside (encode cs)
    obtain ⟨s₃, hclose, h₃⟩ := h₂.exists_passes_closing
    rw [List.append_nil] at h₃
    refine ⟨s₃, .afterQuote, ?_, h₃, by decide, fun hnext => by cases hnext⟩
    rw [encode_quote]
    exact hopen.append (hinside.append hclose)
  · rw [Bool.not_eq_true] at hquotes
    cases hbytes : encode cs with
    | nil =>
      have hcs : cs = [] := by
        cases cs with
        | nil => rfl
        | cons c cs => exact absurd (List.append_eq_nil_iff.1 hbytes).1 String.utf8EncodeChar_ne_nil
      exact ⟨s, phase, .refl s, h, by rcases hphase with rfl | rfl <;> decide,
        fun hnext => ⟨hnext, hcs⟩⟩
    | cons b bytes =>
      have hplain : ∀ d ∈ b :: bytes, isPlain d = true := fun d hd =>
        isPlain_of_mem_encode hquotes (hbytes ▸ hd)
      have hne : phase ≠ .quoted := by rcases hphase with rfl | rfl <;> decide
      obtain ⟨s₁, hfirst, h₁⟩ := h.exists_passes_plain hne (hplain b List.mem_cons_self)
      obtain ⟨s₂, hrest, h₂⟩ := h₁.exists_passes_plains fun d hd =>
        hplain d (List.mem_cons_of_mem b hd)
      refine ⟨s₂, .inField, hfirst.append hrest, ?_, by decide, fun hnext => by cases hnext⟩
      rwa [List.reverse_cons]

/-! ### Written records -/

/-- The fields of a written line are read, the last of them not yet ended. A scanner that starts a
record still stands there when the line is empty, and so has one field without text. -/
lemma exists_passes_line (h : s.Holds phase [] fields)
    (hphase : phase = .startRecord ∨ phase = .startField) (first : List Char)
    (others : List (List Char)) :
    ∃ s' next bytes before', Passes s (encode (Text.join [','] ((first :: others).map field))) s' ∧
      s'.Holds next bytes before' ∧
      (bytes.reverse :: before').reverse = fields.reverse ++ (first :: others).map encode ∧
      next ≠ .quoted ∧ (next = .startRecord → phase = .startRecord ∧ first :: others = [[]]) := by
  induction others generalizing s phase fields first with
  | nil =>
    obtain ⟨s', next, hpass, hs', hquoted, hstart⟩ := exists_passes_field h hphase first
    refine ⟨s', next, _, _, ?_, hs', by simp, hquoted, fun hnext => ?_⟩
    · rwa [List.map_singleton, Text.join_singleton]
    · obtain ⟨hphase, rfl⟩ := hstart hnext
      exact ⟨hphase, rfl⟩
  | cons second others ih =>
    obtain ⟨s₁, next, hfield, h₁, hquoted, -⟩ := exists_passes_field h hphase first
    obtain ⟨s₂, hcomma, h₂⟩ := h₁.exists_passes_comma hquoted
    obtain ⟨s₃, next', bytes, before', hline, h₃, hfields, hquoted', hstart⟩ :=
      ih h₂ (.inr rfl) second
    refine ⟨s₃, next', bytes, before', ?_, h₃, ?_, hquoted', fun hnext => ?_⟩
    · rw [List.map_cons, List.map_cons, Text.join_cons_cons, encode_append, encode_append]
      exact (hfield.append hcomma).append hline
    · rw [hfields, List.reverse_reverse, List.reverse_cons, List.append_assoc, List.map_cons]
      rfl
    · cases (hstart hnext).1

/-- A field without text is the only one that is written as nothing. -/
lemma field_eq_nil {cs : List Char} (h : field cs = []) : cs = [] := by
  unfold field at h
  split_ifs at h
  · cases h
  · exact h

/-- A line is blank only when it holds one field and no text. -/
lemma eq_of_join_field_eq_nil {texts : List (List Char)} (hne : texts ≠ [])
    (h : Text.join [','] (texts.map field) = []) : texts = [[]] := by
  match texts, hne with
  | [cs], _ =>
    rw [List.map_singleton, Text.join_singleton] at h
    rw [field_eq_nil h]
  | _ :: _ :: _, _ =>
    rw [List.map_cons, List.map_cons, Text.join_cons_cons] at h
    simp at h

/-- A scanner that stands at the start of a record reads a written record and stands there again. -/
lemma exists_scanFrom_record (h : s.Holds .startRecord [] []) {texts : List (List Char)}
    (hne : texts ≠ []) : ∃ raw s', (∀ rest,
      scanFrom comma s (encode (record texts) ++ rest) = raw :: scanFrom comma s' rest) ∧
      raw.fields = texts.map encode ∧ s'.Holds .startRecord [] [] := by
  -- Before the line feed, a scanner has read the fields and left the start of the record.
  have hline : ∃ line s₁ next bytes before', record texts = line ++ ['\n'] ∧
      Passes s (encode line) s₁ ∧ s₁.Holds next bytes before' ∧
      (bytes.reverse :: before').reverse = texts.map encode ∧
      next ≠ .quoted ∧ next ≠ .startRecord := by
    by_cases hblank : Text.join [','] (texts.map field) = []
    · obtain rfl := eq_of_join_field_eq_nil hne hblank
      obtain ⟨s₁, hopen, h₁⟩ := h.exists_passes_quote (.inl rfl)
      obtain ⟨s₂, hclose, h₂⟩ := h₁.exists_passes_closing
      exact ⟨['"', '"'], s₂, .afterQuote, [], [], rfl, hopen.append hclose, h₂, rfl, by decide,
        by decide⟩
    · obtain ⟨first, others, rfl⟩ := List.exists_cons_of_ne_nil hne
      obtain ⟨s₁, next, bytes, before', hpass, h₁, hfields, hquoted, hstart⟩ :=
        exists_passes_line h (.inl rfl) first others
      refine ⟨_, s₁, next, bytes, before', ?_, hpass, h₁, hfields, hquoted, fun hnext => ?_⟩
      · simp only [record, List.isEmpty_iff, if_neg hblank]
      · rw [(hstart hnext).2] at hblank
        exact hblank rfl
  obtain ⟨line, s₁, next, bytes, before', hrecord, hpass, h₁, hfields, hquoted, hstart⟩ := hline
  obtain ⟨raw, s₂, hfeed, hraw, h₂⟩ := h₁.exists_scanFrom_lineFeed hquoted hstart
  refine ⟨raw, s₂, fun rest => ?_, hraw.trans hfields, h₂⟩
  rw [hrecord, encode_append, List.append_assoc, hpass]
  exact hfeed rest

/-- Written records are read one after the other. -/
lemma fields_scanFrom_records (h : s.Holds .startRecord [] []) {rows : List (List (List Char))}
    (hrows : ∀ row ∈ rows, row ≠ []) :
    (scanFrom comma s (encode (rows.flatMap record))).map RawRecord.fields =
      rows.map fun row => row.map encode := by
  induction rows generalizing s with
  | nil =>
    rw [List.flatMap_nil, encode_nil, scanFrom, if_pos h.phase_eq]
    rfl
  | cons row rows ih =>
    obtain ⟨raw, s', hrow, hraw, hs'⟩ := exists_scanFrom_record h (hrows row List.mem_cons_self)
    rw [List.flatMap_cons, encode_append, hrow, List.map_cons, List.map_cons, hraw,
      ih hs' fun row hmem => hrows row (List.mem_cons_of_mem _ hmem)]

end CircuitBench.Csv
