import CircuitBench.Proofs.Circuit.Qasm.Continuation

/-!
# Statements in one pass over the lines

The statements of a program can be made in one pass over its lines, `onePass`. The pass keeps the
text behind the last semicolon and the line on which this text starts. The line is set anew with
each further piece as long as the text is blank, so at last it is the line of the first visible
character (`StartsOn`). The invariant is `Pass.Follows`: a pass is where it is behind some code. One
more piece of a line keeps it (`Pass.Follows.close`, `Pass.Follows.extend`), so at the end the pass
has made the statements of the program (`onePass_eq`).
-/

namespace CircuitBench.Qasm

/-! ### The pass -/

/-- The state of a pass: the statements that are closed, the text behind them, and the line on which
this text starts. -/
structure Pass where
  closed : List Statement
  buffer : List Char
  startLine : Nat

namespace Pass

/-- The line on which the text of a pass starts when a piece of a line is put behind it: this line,
if the text was blank up to now. -/
def startWith (st : Pass) (number : Nat) : Nat :=
  if (Text.trim st.buffer).isEmpty then number else st.startLine

/-- The statement of a text that starts on a line, if it is not blank. -/
def statement? (terminated : Bool) (line : Nat) (text : List Char) : Option Statement :=
  if (Text.trim text).isEmpty then none else some ⟨line, Text.trim text, terminated⟩

/-- A piece of a line with a semicolon behind it. -/
def close (number : Nat) (st : Pass) (piece : List Char) : Pass where
  closed := st.closed ++ (statement? true (st.startWith number) (st.buffer ++ piece)).toList
  buffer := []
  startLine := st.startWith number

/-- The piece of a line behind its last semicolon. -/
def extend (number : Nat) (st : Pass) (piece : List Char) : Pass where
  closed := st.closed
  buffer := st.buffer ++ piece ++ [' ']
  startLine := st.startWith number

/-- The pieces of a line, with semicolons between them. Nothing happens behind a semicolon that ends
the line. -/
def readPieces (number : Nat) (st : Pass) : List (List Char) → Pass
  | [] => st
  | [last] => if last.isEmpty then st else st.extend number last
  | piece :: others => (st.close number piece).readPieces number others

/-- Lines, the first of which has the given number. -/
def readLines (number : Nat) (st : Pass) : List (List Char) → Pass
  | [] => st
  | line :: lines =>
    (st.readPieces number (Text.splitOnChar ';' (cutComment line))).readLines (number + 1) lines

/-- The statements at the end of a pass. -/
def finish (st : Pass) : List Statement :=
  st.closed ++ (statement? false st.startLine st.buffer).toList

end Pass

/-- The statements that one pass over the lines of a program makes. -/
def onePass (source : List Char) : List Statement :=
  (Pass.readLines 1 ⟨[], [], 1⟩ (Text.lines source)).finish

/-! ### Runs and the lines on which they start -/

/-- The code of a text that stands on one line. -/
def onLine (number : Nat) (text : List Char) : List Mark :=
  text.map (⟨·, number⟩)

/-- A text behind another one on the same line. -/
lemma onLine_append (number : Nat) (text more : List Char) :
    onLine number (text ++ more) = onLine number text ++ onLine number more :=
  List.map_append

/-- Every character of the text is on the line. -/
lemma line_of_mem_onLine {number : Nat} {text : List Char} {m : Mark}
    (h : m ∈ onLine number text) : m.line = number := by
  obtain ⟨c, -, rfl⟩ := List.mem_map.1 h
  rfl

/-- The code of a text has semicolons only where the text has. -/
lemma ne_semicolon_of_mem_onLine {number : Nat} {text : List Char} (h : ';' ∉ text) :
    ∀ m ∈ onLine number text, m.char ≠ ';' := by
  intro m hm
  obtain ⟨c, hc, rfl⟩ := List.mem_map.1 hm
  exact ne_of_mem_of_not_mem hc h

/-- The first visible character of a run, if there is one, is on a line. -/
def StartsOn (run : List Mark) (line : Nat) : Prop :=
  ∀ first ∈ (run.dropWhile (Text.isBlank ·.char)).head?, first.line = line

/-- The characters of a run without the blanks in front. -/
lemma trimStart_map_char (run : List Mark) :
    Text.trimStart (run.map Mark.char) =
      (run.dropWhile (Text.isBlank ·.char)).map Mark.char :=
  List.dropWhile_map

/-- The statement of a run: the line is that of its first visible character. -/
lemma ofMarks?_eq (terminated : Bool) (run : List Mark) :
    Statement.ofMarks? terminated run =
      (run.dropWhile (Text.isBlank ·.char)).head?.map fun first =>
        ⟨first.line, Text.trim (run.map Mark.char), terminated⟩ := by
  unfold Statement.ofMarks?
  rw [Text.trim, trimStart_map_char]
  generalize run.dropWhile (Text.isBlank ·.char) = trimmed
  cases trimmed <;> rfl

/-- A text is blank when a run is that differs from it in the blanks in front. -/
lemma isEmpty_trim_eq {run : List Mark} {text : List Char}
    (h : Text.trimStart text = Text.trimStart (run.map Mark.char)) :
    (Text.trim text).isEmpty = (run.dropWhile (Text.isBlank ·.char)).isEmpty := by
  rw [Bool.eq_iff_iff, List.isEmpty_iff, List.isEmpty_iff, Text.trim_eq_nil_iff, h,
    trimStart_map_char, List.map_eq_nil_iff]

/-- The statement of a run is given by the line on which it starts and by its text. -/
lemma StartsOn.ofMarks?_eq {run : List Mark} {line : Nat} (h : StartsOn run line)
    {text : List Char} (htext : Text.trimStart text = Text.trimStart (run.map Mark.char))
    (terminated : Bool) :
    Statement.ofMarks? terminated run = Pass.statement? terminated line text := by
  rw [Qasm.ofMarks?_eq, Pass.statement?, isEmpty_trim_eq htext, Text.trim, ← htext]
  unfold StartsOn at h
  generalize run.dropWhile (Text.isBlank ·.char) = trimmed at h ⊢
  cases trimmed with
  | nil => rfl
  | cons first rest =>
    rw [← h first rfl]
    rfl

/-! ### The pass follows the code -/

/-- The state of a pass behind some code. The blanks in front of the text need not be those of the
code, since the end of a line behind a semicolon leaves none. -/
structure Pass.Follows (st : Pass) (code : List Mark) : Prop where
  closed_eq : st.closed = (splitRuns code).1.filterMap (Statement.ofMarks? true)
  buffer_eq : Text.trimStart st.buffer = Text.trimStart ((splitRuns code).2.map Mark.char)
  startsOn : StartsOn (splitRuns code).2 st.startLine

namespace Pass.Follows

variable {st : Pass} {code : List Mark} (h : st.Follows code) (number : Nat)

include h

/-- With one more piece the text starts on the line of the piece, or where it started before. -/
lemma startsOn_append (piece : List Char) :
    StartsOn ((splitRuns code).2 ++ onLine number piece) (st.startWith number) := by
  have hstart := h.startsOn
  unfold StartsOn Pass.startWith at *
  rw [isEmpty_trim_eq h.buffer_eq, List.dropWhile_append]
  split_ifs with hempty
  · intro first hfirst
    exact line_of_mem_onLine ((List.dropWhile_sublist _).subset (List.mem_of_mem_head? hfirst))
  · intro first hfirst
    rw [List.head?_append_of_ne_nil _ (by simpa using hempty)] at hfirst
    exact hstart first hfirst

/-- The text with one more piece. -/
lemma trimStart_append (piece : List Char) :
    Text.trimStart (st.buffer ++ piece) =
      Text.trimStart (((splitRuns code).2 ++ onLine number piece).map Mark.char) := by
  rw [List.map_append, onLine, map_char_map]
  exact Text.trimStart_append_congr h.buffer_eq piece

/-- A semicolon closes the statement that is open. -/
lemma close {piece : List Char} (hpiece : ';' ∉ piece) :
    (st.close number piece).Follows (code ++ onLine number (piece ++ [';'])) := by
  have hpieces : splitRuns (onLine number (piece ++ [';'])) = ([onLine number piece], []) := by
    rw [onLine_append]
    exact splitRuns_append (ne_semicolon_of_mem_onLine hpiece) rfl []
  have hruns : splitRuns (code ++ onLine number (piece ++ [';'])) =
      ((splitRuns code).1 ++ [(splitRuns code).2 ++ onLine number piece], []) := by
    rw [splitRuns_append_code, hpieces]
  refine ⟨?_, ?_, ?_⟩ <;> rw [hruns]
  · rw [List.filterMap_append, ← h.closed_eq, List.filterMap_cons,
      (h.startsOn_append number piece).ofMarks?_eq (h.trimStart_append number piece), Pass.close]
    cases Pass.statement? true (st.startWith number) (st.buffer ++ piece) <;> rfl
  · rfl
  · exact nofun

/-- The end of a line leaves the statement open, with a blank. -/
lemma extend {piece : List Char} (hpiece : ';' ∉ piece) :
    (st.extend number piece).Follows (code ++ onLine number (piece ++ [' '])) := by
  have hopen : ';' ∉ piece ++ [' '] := by
    rw [List.mem_append, not_or]
    exact ⟨hpiece, by decide⟩
  have hruns : splitRuns (code ++ onLine number (piece ++ [' '])) =
      ((splitRuns code).1, (splitRuns code).2 ++ onLine number (piece ++ [' '])) := by
    rw [splitRuns_append_code, splitRuns_of_forall_ne (ne_semicolon_of_mem_onLine hopen)]
  refine ⟨?_, ?_, ?_⟩ <;> rw [hruns]
  · exact h.closed_eq
  · rw [← h.trimStart_append, ← List.append_assoc]
    rfl
  · exact h.startsOn_append number _

/-- Behind a semicolon the end of a line changes nothing. -/
lemma append_blank (hbuffer : st.buffer = []) : st.Follows (code ++ onLine number [' ']) := by
  have hextend := h.extend number List.not_mem_nil
  have hblank :
      (splitRuns (code ++ onLine number [' '])).2.dropWhile (Text.isBlank ·.char) = [] := by
    rw [← List.map_eq_nil_iff, ← trimStart_map_char]
    refine hextend.buffer_eq.symm.trans ?_
    rw [Pass.extend, hbuffer]
    rfl
  refine ⟨hextend.closed_eq, ?_, ?_⟩
  · rw [hbuffer, trimStart_map_char, hblank]
    rfl
  · unfold StartsOn
    rw [hblank]
    exact nofun

/-- The pass follows a line that is not empty, piece by piece. -/
lemma readPieces {pieces : List (List Char)} (hne : pieces ≠ [])
    (hpieces : ∀ piece ∈ pieces, ';' ∉ piece) (htext : Text.join [';'] pieces ≠ []) :
    (st.readPieces number pieces).Follows
      (code ++ onLine number (Text.join [';'] pieces ++ [' '])) := by
  induction pieces generalizing st code with
  | nil => exact absurd rfl hne
  | cons piece others ih =>
    obtain ⟨hpiece, hothers⟩ := List.forall_mem_cons.1 hpieces
    cases others with
    | nil =>
      rw [Text.join_singleton] at htext ⊢
      rw [Pass.readPieces, if_neg (by simpa using htext)]
      exact h.extend number hpiece
    | cons next others =>
      have hclose := h.close number hpiece
      rw [Text.join_cons_cons, List.append_assoc, onLine_append, ← List.append_assoc,
        Pass.readPieces]
      · by_cases hrest : Text.join [';'] (next :: others) = []
        · -- the line ends with this semicolon
          obtain ⟨rfl, rfl⟩ := Text.of_join_cons_eq_nil (List.cons_ne_nil _ _) hrest
          exact hclose.append_blank number rfl
        · exact ih hclose (List.cons_ne_nil _ _) hothers hrest
      · exact nofun

/-- The pass follows the code of the lines that it reads. -/
lemma readLines (lines : List (List Char)) :
    (st.readLines number lines).Follows (code ++ marksFrom number lines) := by
  induction lines generalizing st code number with
  | nil =>
    rw [marksFrom, List.append_nil]
    exact h
  | cons line lines ih =>
    rw [marksFrom, ← List.append_assoc, Pass.readLines]
    refine ih ?_ (number + 1)
    rw [lineMarks]
    split_ifs with hempty
    · rw [List.isEmpty_iff.1 hempty, List.append_nil]
      exact h
    · have hpieces := h.readPieces number (Text.splitOnChar_ne_nil ';' (cutComment line))
        fun piece => Text.not_mem_of_mem_splitOnChar
      rw [Text.join_splitOnChar] at hpieces
      exact hpieces (by simpa using hempty)

end Pass.Follows

/-- One pass over the lines makes the statements of a program. -/
lemma onePass_eq (source : List Char) : onePass source = statements source := by
  have hstart : Pass.Follows ⟨[], [], 1⟩ [] := ⟨rfl, rfl, nofun⟩
  have hend := hstart.readLines 1 (Text.lines source)
  rw [List.nil_append] at hend
  rw [onePass, Pass.finish, hend.closed_eq, ← hend.startsOn.ofMarks?_eq hend.buffer_eq]
  rfl

end CircuitBench.Qasm
