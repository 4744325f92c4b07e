import CircuitBench.Proofs.Circuit.Qasm.VisibleCode
import CircuitBench.Proofs.Circuit.Qasm.OnePass

/-!
# The lines on which statements start

A statement starts at a visible character of the code that is no semicolon and has a semicolon as
the last visible character in front of it, or none. There are as many statements as such places
(`startPlaces`), in the same order. Each statement has the line of its place, and its visible
characters are those of the code from this place up to the next semicolon (`segmentAt`). So the
lines never decrease, and they are lines of the program.

`bare_statements` has the statements without their blanks, and `statements_startLines` puts together
what is known of statements and their lines.
-/

namespace CircuitBench.Qasm

/-! ### Statements without blanks -/

/-- A statement without the blanks in its text. -/
def Statement.bare (s : Statement) : Statement :=
  { s with text := s.text.filter (!Text.isBlank ·) }

/-- The statement of a run, without blanks, is that of its visible code. -/
lemma bare_ofMarks? (terminated : Bool) (run : List Mark) :
    (Statement.ofMarks? terminated run).map Statement.bare =
      (visibleMarks run).head?.map fun first =>
        ⟨first.line, (visibleMarks run).map Mark.char, terminated⟩ := by
  have hhead : (visibleMarks run).head? = (run.dropWhile (Text.isBlank ·.char)).head? :=
    Text.head?_filter_not (fun m : Mark => Text.isBlank m.char) run
  rw [ofMarks?_eq, Option.map_map, hhead, map_char_visibleMarks, ← Text.filter_trim]
  rfl

/-- Without their blanks, the statements of code are those of the visible code. -/
lemma bare_statementsOf (code : List Mark) :
    (statementsOf (visibleMarks code)).map Statement.bare =
      (statementsOf code).map Statement.bare := by
  have hbare : ∀ terminated run,
      (Statement.ofMarks? terminated (visibleMarks run)).map Statement.bare =
        (Statement.ofMarks? terminated run).map Statement.bare := fun terminated run => by
    rw [bare_ofMarks?, bare_ofMarks?, visibleMarks_visibleMarks]
  rw [statementsOf_eq, statementsOf_eq, splitRuns_visibleMarks, List.map_append, List.map_append,
    List.map_filterMap, List.map_filterMap, List.filterMap_map]
  simp only [Function.comp_def, hbare, ← Option.toList_map]

/-! ### The first statement of code -/

/-- The statements of code behind its first semicolon. -/
def statementsBehind (code : List Mark) : List Statement :=
  statementsOf (code.dropWhile (·.char != ';')).tail

/-- The statements of code are the one up to the first semicolon and those behind it. -/
lemma statementsOf_eq_append (code : List Mark) :
    statementsOf code =
      (Statement.ofMarks? (code.any (·.char == ';'))
        (code.takeWhile (·.char != ';'))).toList ++ statementsBehind code := by
  have hfront : ∀ m ∈ code.takeWhile (·.char != ';'), m.char ≠ ';' := fun m hm => by
    simpa using List.mem_takeWhile_imp hm
  have hhead := List.head?_dropWhile_not (·.char != ';') code
  have hcode := List.takeWhile_append_dropWhile (p := (·.char != ';')) (l := code)
  unfold statementsBehind
  generalize code.takeWhile (·.char != ';') = front at hfront hcode ⊢
  generalize code.dropWhile (·.char != ';') = behind at hhead hcode ⊢
  subst hcode
  have hany : front.any (·.char == ';') = false := by simpa using hfront
  rw [List.any_append, hany, Bool.false_or]
  cases behind with
  | nil =>
    rw [List.append_nil, statementsOf_eq, splitRuns_of_forall_ne hfront]
    exact (List.append_nil _).symm
  | cons m rest =>
    have hm : m.char = ';' := by simpa using hhead
    rw [statementsOf_append hfront hm, List.any_cons, hm]
    rfl

variable {m : Mark}

/-- A semicolon in front of code makes no statement. -/
lemma statementsOf_semicolon (hm : m.char = ';') (code : List Mark) :
    statementsOf (m :: code) = statementsOf code :=
  statementsOf_append (List.forall_mem_nil _) hm code

/-- All statements are behind a semicolon that code starts with. -/
lemma statementsBehind_semicolon (hm : m.char = ';') (code : List Mark) :
    statementsBehind (m :: code) = statementsOf code := by
  rw [statementsBehind, List.dropWhile_cons_of_neg (by simp [hm])]
  rfl

/-- Other characters do not change the statements behind the first semicolon. -/
lemma statementsBehind_cons (hm : m.char ≠ ';') (code : List Mark) :
    statementsBehind (m :: code) = statementsBehind code := by
  rw [statementsBehind, List.dropWhile_cons_of_pos (by simpa using hm)]
  rfl

/-- Visible code that does not start with a semicolon starts with a statement. -/
lemma bare_statementsOf_cons {code : List Mark} (hm : m.char ≠ ';')
    (h : ∀ x ∈ m :: code, Text.isBlank x.char = false) :
    (statementsOf (m :: code)).map Statement.bare =
      ⟨m.line, ((m :: code).map Mark.char).takeWhile (· != ';'),
        ((m :: code).map Mark.char).contains ';'⟩ ::
          (statementsBehind code).map Statement.bare := by
  have hfront : visibleMarks ((m :: code).takeWhile (·.char != ';')) =
      (m :: code).takeWhile (·.char != ';') :=
    visibleMarks_eq_self fun x hx => h x ((List.takeWhile_sublist _).subset hx)
  have hhead : ((m :: code).takeWhile (·.char != ';')).head? = some m := by
    rw [List.takeWhile_cons_of_pos (by simpa using hm)]
    rfl
  rw [statementsOf_eq_append, List.map_append, ← Option.toList_map, bare_ofMarks?, hfront, hhead,
    statementsBehind_cons hm, List.takeWhile_map, ← List.any_beq', List.any_map]
  rfl

/-! ### The places where statements start -/

/-- A statement may start behind some places: there are none, or a semicolon stands at the last. -/
def IsFresh (source : List Char) (before : List Nat) : Prop :=
  ∀ j ∈ before.getLast?, charAt source j = ';'

instance (source : List Char) (before : List Nat) : Decidable (IsFresh source before) :=
  inferInstanceAs (Decidable (∀ j ∈ before.getLast?, charAt source j = ';'))

/-- A statement starts at a visible place: no semicolon stands there, and only blanks and comments
stand between it and the semicolon in front of it, or the beginning. -/
structure IsStart (source : List Char) (i : Nat) : Prop where
  ne_semicolon : charAt source i ≠ ';'
  fresh : IsFresh source ((visiblePlaces source).filter (· < i))

variable {source : List Char} {i : Nat} {before behind : List Nat}

/-- The two conditions of a start. -/
lemma isStart_iff : IsStart source i ↔
    charAt source i ≠ ';' ∧ IsFresh source ((visiblePlaces source).filter (· < i)) :=
  ⟨fun h => ⟨h.1, h.2⟩, fun h => ⟨h.1, h.2⟩⟩

instance (source : List Char) (i : Nat) : Decidable (IsStart source i) :=
  decidable_of_iff' _ isStart_iff

/-- The places where statements start, from left to right. -/
def startPlaces (source : List Char) : List Nat :=
  (visiblePlaces source).filter (IsStart source ·)

/-- The statement that starts at a place, without blanks: the visible code from there up to the next
semicolon, if there is one. -/
def segmentAt (source : List Char) (i : Nat) : Statement :=
  let code := ((visiblePlaces source).filter (i ≤ ·)).map (charAt source)
  ⟨lineNumber source i, code.takeWhile (· != ';'), code.contains ';'⟩

/-- The visible places on the left and on the right of one of them. -/
lemma filter_visiblePlaces (h : visiblePlaces source = before ++ i :: behind) :
    (visiblePlaces source).filter (· < i) = before ∧
      (visiblePlaces source).filter (i ≤ ·) = i :: behind := by
  have hsorted := pairwise_visiblePlaces source
  rw [h, List.pairwise_append, List.pairwise_cons] at hsorted
  obtain ⟨-, ⟨hbehind, -⟩, hbefore⟩ := hsorted
  have hleft : ∀ j ∈ before, j < i := fun j hj => hbefore j hj i List.mem_cons_self
  have hright : ∀ j ∈ i :: behind, i ≤ j :=
    List.forall_mem_cons.2 ⟨le_rfl, fun j hj => (hbehind j hj).le⟩
  rw [h, List.filter_append, List.filter_append]
  constructor
  · rw [List.filter_eq_self.2 (by simpa using hleft),
      List.filter_eq_nil_iff.2 (by simpa using hright), List.append_nil]
  · rw [List.filter_eq_nil_iff.2 (by simpa using hleft),
      List.filter_eq_self.2 (by simpa using hright), List.nil_append]

/-- The statements of the visible code behind some places, or those behind its first semicolon when
a statement is open there, start at the places that are starts. -/
lemma bare_statementsOf_places (h : visiblePlaces source = before ++ behind) :
    (IsFresh source before → (statementsOf (behind.map (markAt source))).map Statement.bare =
      (behind.filter (IsStart source ·)).map (segmentAt source)) ∧
    (¬ IsFresh source before →
      (statementsBehind (behind.map (markAt source))).map Statement.bare =
        (behind.filter (IsStart source ·)).map (segmentAt source)) := by
  induction behind generalizing before with
  | nil => exact ⟨fun _ => rfl, fun _ => rfl⟩
  | cons i behind ih =>
    obtain ⟨ihfresh, ihopen⟩ := ih (h.trans (List.append_cons _ _ _))
    have hlast : IsFresh source (before ++ [i]) ↔ charAt source i = ';' := by
      simp [IsFresh]
    rw [hlast] at ihfresh ihopen
    obtain ⟨hleft, hright⟩ := filter_visiblePlaces h
    have hstart : IsStart source i ↔ charAt source i ≠ ';' ∧ IsFresh source before := by
      rw [isStart_iff, hleft]
    have hskip : ¬ IsStart source i →
        (i :: behind).filter (IsStart source ·) = behind.filter (IsStart source ·) :=
      fun hnot => List.filter_cons_of_neg (by simpa using hnot)
    rw [List.map_cons]
    by_cases hi : charAt source i = ';'
    · rw [hskip fun hstart => hstart.ne_semicolon hi, ← ihfresh hi, statementsOf_semicolon hi,
        statementsBehind_semicolon hi]
      exact ⟨fun _ => rfl, fun _ => rfl⟩
    · refine ⟨fun hfresh => ?_, fun hopen => ?_⟩
      · have hvisible : ∀ m ∈ markAt source i :: behind.map (markAt source),
            Text.isBlank m.char = false := by
          rw [← List.map_cons, List.forall_mem_map]
          exact fun j hj => isBlank_charAt (h ▸ List.mem_append_right _ hj)
        have hcode : (markAt source i :: behind.map (markAt source)).map Mark.char =
            (i :: behind).map (charAt source) := by
          rw [← List.map_cons, List.map_map]
          rfl
        rw [bare_statementsOf_cons hi hvisible, ihopen hi, hcode,
          List.filter_cons_of_pos (by simpa using hstart.2 ⟨hi, hfresh⟩), ← hright]
        rfl
      · rw [statementsBehind_cons hi, ihopen hi, hskip fun hnot => hopen (hstart.1 hnot).2]

/-- Without their blanks, the statements of a program are those that start at its places. -/
lemma bare_statements (source : List Char) :
    (statements source).map Statement.bare = (startPlaces source).map (segmentAt source) := by
  have hplaces := (bare_statementsOf_places (List.nil_append (visiblePlaces source)).symm).1 nofun
  rw [← visibleMarks_marks, bare_statementsOf] at hplaces
  exact hplaces

/-! ### The texts of statements -/

/-- A text of a statement: it is not empty, no blanks stand at its ends, and nothing in it ends it
or hides a part of it. -/
structure IsStatementCode (text : List Char) : Prop where
  ne_nil : text ≠ []
  trimmed : Text.IsTrimmed text
  semicolon : ';' ∉ text
  slashes : ¬ ['/', '/'] <:+: text

/-- Every statement is made of one of the pieces between semicolons. -/
lemma exists_piece_of_mem_statementsOf {code : List Mark} {s : Statement}
    (h : s ∈ statementsOf code) :
    ∃ terminated run, Statement.ofMarks? terminated run = some s ∧
      run.map Mark.char ∈ Text.splitOnChar ';' (code.map Mark.char) := by
  rw [splitOnChar_map_char]
  rw [statementsOf_eq, List.mem_append, List.mem_filterMap, Option.mem_toList] at h
  rcases h with ⟨run, hmem, hrun⟩ | hrun
  · exact ⟨_, run, hrun, List.mem_append_left _ (List.mem_map_of_mem hmem)⟩
  · exact ⟨_, _, hrun, List.mem_append_right _ (List.mem_singleton_self _)⟩

/-- Code of lines has no comments, since a blank stands between them. -/
lemma cutComment_flatMap {codes : List (List Char)} (h : ∀ code ∈ codes, cutComment code = code) :
    cutComment (codes.flatMap fun code => if code.isEmpty then [] else code ++ [' ']) =
      codes.flatMap fun code => if code.isEmpty then [] else code ++ [' '] := by
  induction codes with
  | nil => rfl
  | cons code codes ih =>
    obtain ⟨hcode, hcodes⟩ := List.forall_mem_cons.1 h
    rw [List.flatMap_cons]
    split_ifs with hempty
    · exact ih hcodes
    · rw [List.append_assoc, List.singleton_append, cutComment_append hcode (by decide), ih hcodes]

/-- The code of a program has no slashes next to each other. -/
lemma not_slashes_marks (source : List Char) :
    ¬ ['/', '/'] <:+: (marks source).map Mark.char := by
  rw [← cutComment_eq_self_iff, marks, map_char_marksFrom]
  refine cutComment_flatMap fun code hcode => ?_
  obtain ⟨line, -, rfl⟩ := List.mem_map.1 hcode
  exact cutComment_cutComment line

/-- The texts of statements. -/
lemma isStatementCode_of_mem {s : Statement} (h : s ∈ statements source) :
    IsStatementCode s.text := by
  obtain ⟨terminated, run, hrun, hpiece⟩ := exists_piece_of_mem_statementsOf h
  rw [ofMarks?_eq] at hrun
  obtain ⟨first, hfirst, rfl⟩ := Option.map_eq_some_iff.1 hrun
  have htext := Text.trim_infix (run.map Mark.char)
  refine ⟨fun hnil => ?_, Text.isTrimmed_trim _, fun hsemicolon => ?_, fun hslashes => ?_⟩
  · rw [Text.trim_eq_nil_iff, trimStart_map_char, List.map_eq_nil_iff] at hnil
    rw [hnil] at hfirst
    cases hfirst
  · exact Text.not_mem_of_mem_splitOnChar hpiece (htext.subset hsemicolon)
  · have hinfix : run.map Mark.char <:+: Text.join [';'] _ := Text.infix_join_of_mem hpiece
    rw [Text.join_splitOnChar] at hinfix
    exact not_slashes_marks source ((hslashes.trans htext).trans hinfix)

/-- Only the last statement may be open. -/
lemma terminated_of_mem_dropLast {code : List Mark} {s : Statement}
    (h : s ∈ (statementsOf code).dropLast) : s.terminated = true := by
  have hclosed : ∀ s ∈ (splitRuns code).1.filterMap (Statement.ofMarks? true),
      s.terminated = true := by
    intro s hs
    obtain ⟨run, -, hrun⟩ := List.mem_filterMap.1 hs
    exact terminated_of_ofMarks? hrun
  rw [statementsOf_eq] at h
  generalize Statement.ofMarks? false (splitRuns code).2 = last at h
  cases last with
  | none =>
    rw [Option.toList_none, List.append_nil] at h
    exact hclosed s (List.mem_of_mem_dropLast h)
  | some last =>
    rw [Option.toList_some, List.dropLast_concat] at h
    exact hclosed s h

/-! ### The lines of statements -/

/-- Visible code of lines is code of the line with its number. -/
lemma exists_line_of_mem_marksFrom {number : Nat} {lines : List (List Char)}
    (h : m ∈ marksFrom number lines) (hm : Text.isBlank m.char = false) :
    ∃ k line, lines[k]? = some line ∧ m.line = number + k ∧ m.char ∈ cutComment line := by
  induction lines generalizing number with
  | nil => cases h
  | cons line lines ih =>
    rcases List.mem_append.1 h with hline | hlines
    · refine ⟨0, line, rfl, ?_⟩
      have hvisible : m ∈ visibleMarks (lineMarks number line) :=
        List.mem_filter.2 ⟨hline, by simp [hm]⟩
      rw [visibleMarks_lineMarks] at hvisible
      obtain ⟨c, hc, rfl⟩ := List.mem_map.1 (List.mem_of_mem_filter hvisible)
      exact ⟨rfl, hc⟩
    · obtain ⟨k, line', hk, hnumber, hchar⟩ := ih hlines
      exact ⟨k + 1, line', hk, by omega, hchar⟩

/-- The character at a visible place is code of the line with its number. -/
lemma exists_line_of_mem_visiblePlaces (h : i ∈ visiblePlaces source) :
    ∃ line, (Text.lines source)[lineNumber source i - 1]? = some line ∧
      charAt source i ∈ cutComment line := by
  have hmark : markAt source i ∈ visibleMarks (marks source) := by
    rw [visibleMarks_marks]
    exact List.mem_map_of_mem h
  obtain ⟨k, line, hk, hnumber, hchar⟩ :=
    exists_line_of_mem_marksFrom (List.mem_of_mem_filter hmark) (isBlank_charAt h)
  have hindex : lineNumber source i - 1 = k := Nat.sub_eq_of_eq_add' hnumber
  exact ⟨line, hindex ▸ hk, hchar⟩

/-- The line of each statement is that of the place where it starts. -/
lemma map_line_statements (source : List Char) :
    (statements source).map Statement.line = (startPlaces source).map (lineNumber source) := by
  have hbare := congrArg (List.map Statement.line) (bare_statements source)
  rwa [List.map_map, List.map_map] at hbare

/-- The lines of statements never decrease. -/
lemma pairwise_line_statements (source : List Char) :
    ((statements source).map Statement.line).Pairwise (· ≤ ·) := by
  rw [map_line_statements, List.pairwise_map]
  exact ((pairwise_visiblePlaces source).filter _).imp fun h => lineNumber_mono source h.le

/-- The lines of statements are lines of the program. -/
lemma line_bounds_of_mem {s : Statement} (h : s ∈ statements source) :
    1 ≤ s.line ∧ s.line ≤ (Text.lines source).length := by
  have hline := List.mem_map_of_mem (f := Statement.line) h
  rw [map_line_statements] at hline
  obtain ⟨i, hi, hline⟩ := List.mem_map.1 hline
  obtain ⟨line, hget, -⟩ := exists_line_of_mem_visiblePlaces (List.mem_of_mem_filter hi)
  obtain ⟨hlt, -⟩ := List.getElem?_eq_some_iff.1 hget
  rw [← hline]
  exact ⟨Nat.succ_pos _, Nat.le_of_pred_lt hlt⟩

/-- Statements with the lines on which they start. -/
structure StartsOnLines (source : List Char) (ss : List Statement) : Prop where
  /-- No text is empty, is hidden or ended within, or has blanks at its ends. -/
  texts : ∀ s ∈ ss, IsStatementCode s.text
  /-- All statements but the last one have their semicolons. -/
  closed : ∀ s ∈ ss.dropLast, s.terminated = true
  /-- There is one statement for each start, with the visible code up to the next semicolon. -/
  segments : ss.map Statement.bare = (startPlaces source).map (segmentAt source)
  /-- The line of each statement is that of the first of its visible characters. -/
  lines : ss.map Statement.line = (startPlaces source).map (lineNumber source)
  /-- This character is code of the line with this number. -/
  held : ∀ i ∈ startPlaces source, ∃ line,
    (Text.lines source)[lineNumber source i - 1]? = some line ∧ charAt source i ∈ cutComment line
  /-- The lines never decrease. -/
  ascending : (ss.map Statement.line).Pairwise (· ≤ ·)
  /-- They are lines of the program. -/
  within : ∀ s ∈ ss, 1 ≤ s.line ∧ s.line ≤ (Text.lines source).length

/-- The statements of a program have the lines on which they start, and one pass over the lines that
sets the line anew as long as the text is blank makes the same statements. -/
theorem statements_startLines (source : List Char) :
    StartsOnLines source (statements source) ∧ onePass source = statements source := by
  constructor
  · exact {
      texts := fun s => isStatementCode_of_mem
      closed := fun s => terminated_of_mem_dropLast
      segments := bare_statements source
      lines := map_line_statements source
      held := fun i hi => exists_line_of_mem_visiblePlaces (List.mem_of_mem_filter hi)
      ascending := pairwise_line_statements source
      within := fun s => line_bounds_of_mem }
  · exact onePass_eq source

/-- A program with a comment, lines without code, stray semicolons, a statement on two lines and two
statements on one. -/
example :
    let source := "qreg q[1]; // ; x\n\n ;;\n  h\n q[0] ; x q[0] // y\n;\n// z\n".toList
    (startPlaces source).map (lineNumber source) = [1, 4, 5] := by
  decide +kernel

end CircuitBench.Qasm
