import CircuitBench.Proofs.Circuit.Qasm.Layout
import CircuitBench.Proofs.Circuit.Qasm.Soundness

/-!
# Programs do not depend on their lines

A program and its text on one line, `flat`, have the same code up to runs of blanks: the end of a
line counts as a blank, lines without code count as nothing, and comments are cut off. Semicolons
are visible, so the statements of both are the same up to their layout (`squeezed_statements_flat`),
and they have the same effect (`readProgram_flat`).
-/

namespace CircuitBench.Qasm

open Text (squeeze)

/-! ### Squeezed code -/

/-- The squeezed statement that a piece of code between semicolons makes, if it is not blank. -/
def layoutOf? (terminated : Bool) (piece : List Char) : Option Statement :=
  match Text.trimStart piece with
  | [] => none
  | c :: rest => some ⟨0, squeeze (Text.trimEnd (c :: rest)), terminated⟩

/-- The squeezed statements of code. -/
def statementLayouts (code : List Char) : List Statement :=
  let pieces := Text.splitOnChar ';' code
  pieces.dropLast.filterMap (layoutOf? true) ++ (pieces.getLast?.bind (layoutOf? false)).toList

/-- A squeezed piece makes the same squeezed statement. -/
lemma layoutOf?_squeeze (terminated : Bool) (piece : List Char) :
    layoutOf? terminated (squeeze piece) = layoutOf? terminated piece := by
  unfold layoutOf?
  rw [Text.trimStart_squeeze]
  rcases htrim : Text.trimStart piece with _ | ⟨c, rest⟩
  · rfl
  · have hend := Text.trimEnd_squeeze (c :: rest)
    rw [Text.squeeze_cons_of_visible (Text.isBlank_of_trimStart htrim)] at hend ⊢
    dsimp only
    rw [hend, Text.squeeze_squeeze]

/-- Squeezed code makes the same squeezed statements. -/
lemma statementLayouts_squeeze (code : List Char) :
    statementLayouts (squeeze code) = statementLayouts code := by
  have hpiece : ∀ terminated, layoutOf? terminated ∘ squeeze = layoutOf? terminated :=
    fun terminated => funext (layoutOf?_squeeze terminated)
  unfold statementLayouts
  dsimp only
  rw [Text.splitOnChar_squeeze (by decide), ← List.map_dropLast, List.filterMap_map,
    List.getLast?_map, Option.bind_map, hpiece, hpiece]

/-- The squeezed statement of a run of code depends on its characters only. -/
lemma ofMarks?_squeezed (terminated : Bool) (run : List Mark) :
    (Statement.ofMarks? terminated run).map Statement.squeezed =
      layoutOf? terminated (run.map Mark.char) := by
  have htrim : Text.trimStart (run.map Mark.char) =
      (run.dropWhile (Text.isBlank ·.char)).map Mark.char := List.dropWhile_map
  unfold Statement.ofMarks? layoutOf?
  rw [htrim]
  generalize run.dropWhile (Text.isBlank ·.char) = marks
  cases marks <;> rfl

/-- The characters of the runs are the pieces of the code. -/
lemma splitOnChar_map_char (code : List Mark) :
    Text.splitOnChar ';' (code.map Mark.char) =
      (splitRuns code).1.map (List.map Mark.char) ++ [(splitRuns code).2.map Mark.char] := by
  induction code with
  | nil => rfl
  | cons m code ih =>
    rw [List.map_cons, splitRuns]
    generalize splitRuns code = runs at ih ⊢
    obtain ⟨closed, last⟩ := runs
    by_cases hm : m.char = ';'
    · rw [Text.splitOnChar, if_pos hm, ih]
      simp only [hm, if_true, List.map_cons, List.map_nil, List.cons_append]
    · simp only [hm, if_false]
      cases closed with
      | nil => exact Text.splitOnChar_cons_of_ne hm ih
      | cons run others => exact Text.splitOnChar_cons_of_ne hm ih

/-- The squeezed statements of code depend on its characters only. -/
lemma squeezed_statementsOf (code : List Mark) :
    (statementsOf code).map Statement.squeezed = statementLayouts (code.map Mark.char) := by
  unfold statementsOf statementLayouts
  rw [splitOnChar_map_char]
  rcases splitRuns code with ⟨closed, last⟩
  have hpiece : (fun run => (Statement.ofMarks? true run).map Statement.squeezed) =
      layoutOf? true ∘ List.map Mark.char := funext (ofMarks?_squeezed true)
  dsimp only
  rw [List.map_append, List.map_filterMap, hpiece, List.dropLast_concat, List.getLast?_concat,
    Option.bind_some, ← ofMarks?_squeezed, List.filterMap_map]
  rcases Statement.ofMarks? false last with _ | s <;> rfl

/-- A blank in front of code does not change its squeezed statements. -/
lemma statementLayouts_cons (code : List Mark) :
    statementLayouts (' ' :: code.map Mark.char) = statementLayouts (code.map Mark.char) := by
  have hblank := statementsOf_cons (m := ⟨' ', 0⟩) Text.isBlank_space code
  rw [← squeezed_statementsOf, ← hblank, squeezed_statementsOf, List.map_cons]

/-! ### Code of lines -/

/-- The text of a program on one line: its lines without their comments, with one blank between
neighbours. -/
def flat (source : List Char) : List Char :=
  Text.join [' '] ((Text.lines source).map cutComment)

/-- The characters of the code of a line. -/
lemma map_char_lineMarks (number : Nat) (line : List Char) :
    (lineMarks number line).map Mark.char =
      if (cutComment line).isEmpty then [] else cutComment line ++ [' '] := by
  rw [lineMarks]
  split_ifs
  · rfl
  · exact map_char_map _ number

/-- The characters of the code of lines. -/
lemma map_char_marksFrom (number : Nat) (lines : List (List Char)) :
    (marksFrom number lines).map Mark.char = (lines.map cutComment).flatMap fun code =>
      if code.isEmpty then [] else code ++ [' '] := by
  induction lines generalizing number with
  | nil => rfl
  | cons line lines ih =>
    rw [marksFrom, List.map_append, ih, List.map_cons, List.flatMap_cons, map_char_lineMarks]

/-- Behind a blank, lines without code count as nothing. -/
lemma squeeze_cons_flatMap (codes : List (List Char)) :
    squeeze (' ' :: codes.flatMap fun code => if code.isEmpty then [] else code ++ [' ']) =
      squeeze (' ' :: codes.flatMap (· ++ [' '])) := by
  induction codes with
  | nil => rfl
  | cons code codes ih =>
    rw [List.flatMap_cons, List.flatMap_cons]
    by_cases hempty : code = []
    · rw [hempty, List.isEmpty_nil, if_pos rfl, List.nil_append, ih,
        Text.squeeze_cons_of_isBlank Text.isBlank_space,
        Text.squeeze_cons_of_isBlank Text.isBlank_space, List.nil_append, List.singleton_append,
        Text.trimStart_cons_of_isBlank Text.isBlank_space]
    · rw [if_neg (by simpa using hempty), List.append_assoc, List.append_assoc,
        List.singleton_append, List.singleton_append, ← List.cons_append, ← List.cons_append]
      exact Text.squeeze_append_congr ih (' ' :: code)

/-- A blank behind joined lines is a blank behind each of them. -/
lemma join_append_blank {codes : List (List Char)} (hne : codes ≠ []) :
    Text.join [' '] codes ++ [' '] = codes.flatMap (· ++ [' ']) := by
  induction codes with
  | nil => exact absurd rfl hne
  | cons code codes ih =>
    cases codes with
    | nil => simp
    | cons next codes =>
      rw [Text.join_cons_cons, List.append_assoc, ih (List.cons_ne_nil _ _)]
      rfl

/-! ### The one line -/

/-- The code of a line starts as the line does. -/
lemma head?_of_cutComment {c : Char} {line : List Char} (h : (cutComment line).head? = some c) :
    line.head? = some c := by
  fun_cases cutComment line with
  | case1 tail => cases h
  | case2 d line hkeep =>
    rw [cutComment] at h
    · exact h
    · exact hkeep
  | case3 => cases h

/-- A comment is cut off only once. -/
lemma cutComment_cutComment (line : List Char) :
    cutComment (cutComment line) = cutComment line := by
  fun_induction cutComment line with
  | case1 tail => rfl
  | case2 c line hkeep ih =>
    rw [cutComment, ih]
    rintro tail rfl hhead
    have hslash := head?_of_cutComment (congrArg List.head? hhead)
    obtain ⟨rest, rfl⟩ := List.head?_eq_some_iff.1 hslash
    exact hkeep rest rfl rfl
  | case3 => rfl

/-- Joined code has no comments. -/
lemma cutComment_join {codes : List (List Char)} (h : ∀ code ∈ codes, cutComment code = code) :
    cutComment (Text.join [' '] codes) = Text.join [' '] codes := by
  induction codes with
  | nil => rfl
  | cons code codes ih =>
    have hcode := h code List.mem_cons_self
    cases codes with
    | nil => rwa [Text.join_singleton]
    | cons next codes =>
      rw [Text.join_cons_cons, List.append_assoc, List.singleton_append,
        cutComment_append hcode (by decide),
        ih fun other hother => h other (List.mem_cons_of_mem _ hother)]

/-- The characters of code are those of its line. -/
lemma mem_of_mem_cutComment {c : Char} {line : List Char} (h : c ∈ cutComment line) :
    c ∈ line := by
  fun_induction cutComment line with
  | case1 tail => cases h
  | case2 d line hkeep ih =>
    rcases List.mem_cons.1 h with rfl | h
    · exact List.mem_cons_self
    · exact List.mem_cons_of_mem _ (ih h)
  | case3 => cases h

/-- The one line has no comments. -/
lemma cutComment_flat (source : List Char) : cutComment (flat source) = flat source := by
  refine cutComment_join fun code hcode => ?_
  obtain ⟨line, -, rfl⟩ := List.mem_map.1 hcode
  exact cutComment_cutComment line

/-- The one line is a line. -/
lemma lineFeed_not_mem_flat (source : List Char) : '\n' ∉ flat source := by
  intro hmem
  rcases Text.mem_join hmem with hblank | ⟨code, hcode, hmem⟩
  · exact absurd hblank (by decide)
  · obtain ⟨line, hline, rfl⟩ := List.mem_map.1 hcode
    exact Text.lineFeed_not_mem_of_mem_lines hline (mem_of_mem_cutComment hmem)

/-! ### Programs on one line -/

/-- Behind a blank, the code of the one line is squeezed to the code of the program. -/
lemma squeeze_marks_flat (source : List Char) :
    squeeze (' ' :: (marks (flat source)).map Mark.char) =
      squeeze (' ' :: (marks source).map Mark.char) := by
  have hline : squeeze (' ' :: (marks (flat source)).map Mark.char) =
      squeeze (' ' :: (flat source ++ [' '])) := by
    unfold marks
    rw [map_char_marksFrom, Text.lines_of_lineFeed_not_mem (lineFeed_not_mem_flat source)]
    split_ifs with hempty
    · rw [hempty]
      rfl
    · rw [List.map_singleton, cutComment_flat, List.flatMap_singleton,
        if_neg (by simpa using hempty)]
  have hjoin : squeeze (' ' :: (flat source ++ [' '])) =
      squeeze (' ' :: ((Text.lines source).map cutComment).flatMap (· ++ [' '])) := by
    by_cases hne : (Text.lines source).map cutComment = []
    · rw [flat, hne]
      rfl
    · rw [flat, join_append_blank hne]
  rw [hline, hjoin, ← squeeze_cons_flatMap, ← map_char_marksFrom 1]
  rfl

/-- The statements of a program on one line are those of the program, up to their layout. -/
lemma squeezed_statements_flat (source : List Char) :
    (statements (flat source)).map Statement.squeezed =
      (statements source).map Statement.squeezed := by
  unfold statements
  rw [squeezed_statementsOf, squeezed_statementsOf, ← statementLayouts_cons,
    ← statementLayouts_squeeze, squeeze_marks_flat, statementLayouts_squeeze, statementLayouts_cons]

/-- A program and its text on one line are read as the same circuit or have the same fault, up to
its layout. -/
lemma sameUpToLayout_readProgram_flat (source : List Char) :
    SameUpToLayout (readProgram source) (readProgram (flat source)) := by
  have hsource := addStatements_squeezed .empty 0 (statements source)
  have hflat := addStatements_squeezed .empty 0 (statements (flat source))
  rw [squeezed_statements_flat] at hflat
  exact hsource.symm.trans hflat

/-- A program on one line is read as the program is: the same circuit, or a fault of the same kind
that differs in its line and in the layout of its quotes at most. -/
theorem readProgram_flat (source : List Char) :
    (∀ c, readProgram source = .ok c ↔ readProgram (flat source) = .ok c) ∧
      (∀ e, readProgram source = .error e →
        ∃ e', readProgram (flat source) = .error e' ∧ e.SameUpToLayout e') ∧
      (∀ e', readProgram (flat source) = .error e' →
        ∃ e, readProgram source = .error e ∧ e.SameUpToLayout e') := by
  have hsame := sameUpToLayout_readProgram_flat source
  refine ⟨hsame.ok_iff, fun e he => hsame.exists_error he, fun e' he' => ?_⟩
  obtain ⟨e, he, hlayout⟩ := hsame.symm.exists_error he'
  exact ⟨e, he, hlayout.symm⟩

/-- A program with a comment, an empty line and a statement on two lines. -/
def spreadProgram : List Char :=
  "OPENQASM 2.0;\n\nqreg q[2]; // a pair\nrz(pi /\n  2) q[0]; x q[1];\n".toList

/-- The circuit of the spread program. -/
def spreadCircuit : Circuit where
  qregs := [⟨"q", 2⟩]
  cregs := []
  commands := [⟨"Rz", [0.5], [⟨"q", 0⟩]⟩, ⟨"X", [], [⟨"q", 1⟩]⟩]
  phase := 0

/-- A program whose last statement misses a comma at the end of a line. -/
def unseparatedProgram : List Char :=
  "qreg q[2];\ncx q[0] // control\n\n   q[1];\n".toList

/-- On one line, the spread program is read as the same circuit, and the unseparated program has the
fault that it has on its lines. -/
theorem readProgram_flat_spreadProgram :
    (readProgram spreadProgram = .ok spreadCircuit ∧
      readProgram (flat spreadProgram) = .ok spreadCircuit) ∧
    ∃ e e', readProgram unseparatedProgram = .error e ∧
      readProgram (flat unseparatedProgram) = .error e' ∧ e.SameUpToLayout e' := by
  have hread : readProgram spreadProgram = .ok spreadCircuit := by decide +kernel
  have hfault : readProgram unseparatedProgram =
      .error (.statement 2 (.malformedArgument "q[0]     q[1]")) := by decide +kernel
  obtain ⟨hok, hforward, hbackward⟩ := readProgram_flat unseparatedProgram
  obtain ⟨e', he', -⟩ := hforward _ hfault
  obtain ⟨e, he, hlayout⟩ := hbackward e' he'
  exact ⟨⟨hread, ((readProgram_flat spreadProgram).1 _).1 hread⟩, e, e', he, he', hlayout⟩

end CircuitBench.Qasm
