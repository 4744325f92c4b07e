import CircuitBench.Proofs.Circuit.Qasm.Continuation

/-!
# Programs behind an include line

An include statement changes nothing (`addStatements_of_isInclude`), and the other statements of a
program are read behind it as they are without it. But the name of the file is code like all other
code: comments are cut off and semicolons are found before any quote is looked at. So two slashes in
the name hide the rest of the line with its semicolon, and the include goes on up to the next one
(`exists_statements_slashed`); a semicolon ends it within the name.

The include lines that change nothing are told apart by `isTransparent_iff`, and
`readProgram_includeLine` has what becomes of an include line and the program behind it.
-/

namespace CircuitBench

/-- A circuit with one more register is another one. -/
lemma Circuit.declare_ne (c : Circuit) (r : Register) (kind : UnitKind) : c.declare r kind ≠ c := by
  intro h
  cases kind with
  | qubit => simpa [Circuit.declare] using congrArg (List.length ∘ Circuit.qregs) h
  | bit => simpa [Circuit.declare] using congrArg (List.length ∘ Circuit.cregs) h

/-- A circuit with one more command is another one. -/
lemma Circuit.push_ne (c : Circuit) (command : Command) : c.push command ≠ c := by
  intro h
  simpa using congrArg (List.length ∘ Circuit.commands) h

end CircuitBench

namespace CircuitBench.Qasm

/-! ### Statements that change nothing -/

/-- An include statement with its semicolon. -/
structure Statement.IsInclude (s : Statement) : Prop where
  terminated : s.terminated = true
  firstWord_eq : firstWord s.text = "include".toList

/-- An include statement changes nothing. -/
lemma Statement.IsInclude.addStatement {s : Statement} (h : s.IsInclude) (c : Circuit)
    (position : Nat) : addStatement c position s = .ok c := by
  unfold Qasm.addStatement
  dsimp only
  rw [h.terminated, h.firstWord_eq]
  rfl

/-- Behind the first statement only includes change nothing. -/
lemma isInclude_of_addStatement {c : Circuit} {position : Nat} {s : Statement}
    (h : addStatement c (position + 1) s = .ok c) : s.IsInclude := by
  refine ⟨terminated_of_addStatement h, ?_⟩
  unfold addStatement at h
  dsimp only at h
  rw [← String.ofList_inj]
  -- a header is refused here, and whatever else is accepted adds a register or a command
  split at h
  · cases h
  · split at h
    · obtain ⟨checked, hheader, -⟩ := of_map_eq_ok h
      rw [checkHeader, if_pos (Nat.succ_ne_zero position)] at hheader
      cases hheader
    · next hkeyword => exact hkeyword
    · obtain ⟨r, -, -, -, hdeclare⟩ := of_addRegister_eq_ok h
      exact absurd hdeclare.symm (c.declare_ne r .qubit)
    · obtain ⟨r, -, -, -, hdeclare⟩ := of_addRegister_eq_ok h
      exact absurd hdeclare.symm (c.declare_ne r .bit)
    · obtain ⟨command, -, hpush⟩ := of_map_eq_ok h
      exact absurd hpush (c.push_ne command)
    · obtain ⟨qubits, -, hpush⟩ := of_map_eq_ok h
      exact absurd hpush (c.push_ne _)
    · obtain ⟨qubits, -, h⟩ := of_bind_eq_ok h
      split at h
      · cases h
      · exact absurd (Except.ok.inj h) (c.push_ne _)
    · split at h
      · cases h
      · obtain ⟨command, -, hpush⟩ := of_map_eq_ok h
        exact absurd hpush (c.push_ne command)

/-- Include statements change nothing. -/
lemma addStatements_of_isInclude {ss : List Statement} (h : ∀ s ∈ ss, s.IsInclude) (c : Circuit)
    (position : Nat) : addStatements c position ss = .ok c := by
  induction ss generalizing position with
  | nil => rfl
  | cons s ss ih =>
    obtain ⟨hs, hss⟩ := List.forall_mem_cons.1 h
    rw [addStatements_cons (hs.addStatement c position), ih hss]

/-- Behind the first statement, statements that change nothing are includes. -/
lemma isInclude_of_addStatements {c : Circuit} {position : Nat} {ss : List Statement}
    (h : addStatements c (position + 1) ss = .ok c) : ∀ s ∈ ss, s.IsInclude := by
  induction ss generalizing position with
  | nil => exact nofun
  | cons s ss ih =>
    obtain ⟨extended, hs, hss⟩ := of_bind_eq_ok h
    obtain rfl := (step_of_addStatement hs).begins.antisymm (begins_of_addStatements hss)
    exact List.forall_mem_cons.2 ⟨isInclude_of_addStatement hs, ih hss⟩

/-! ### Programs behind other lines -/

/-- A program without a version header. -/
def IsHeaderless (source : List Char) : Prop :=
  ∀ s ∈ statements source, firstWord s.text ≠ "OPENQASM".toList

instance (source : List Char) : Decidable (IsHeaderless source) :=
  inferInstanceAs (Decidable (∀ s ∈ statements source, firstWord s.text ≠ "OPENQASM".toList))

/-- Only version headers depend on their position. -/
lemma addStatement_position {s : Statement} (h : firstWord s.text ≠ "OPENQASM".toList)
    (c : Circuit) (position position' : Nat) :
    addStatement c position s = addStatement c position' s := by
  have hkeyword : String.ofList (firstWord s.text) ≠ "OPENQASM" := fun heq =>
    h (String.ofList_inj.1 heq)
  unfold addStatement
  dsimp only
  -- the position stands in the branch of the header only
  generalize String.ofList (firstWord s.text) = keyword at hkeyword
  by_cases hopen : (!s.terminated && !isUnsupportedKeyword keyword) = true
  · rw [if_pos hopen, if_pos hopen]
  · rw [if_neg hopen, if_neg hopen]
    split
    · exact absurd rfl hkeyword
    all_goals rfl

/-- Statements that are no version headers do not depend on their positions. -/
lemma addStatements_position {ss : List Statement}
    (h : ∀ s ∈ ss, firstWord s.text ≠ "OPENQASM".toList) (c : Circuit) (position position' : Nat) :
    addStatements c position ss = addStatements c position' ss := by
  induction ss generalizing c position position' with
  | nil => rfl
  | cons s ss ih =>
    obtain ⟨hs, hss⟩ := List.forall_mem_cons.1 h
    rw [addStatements, addStatements, addStatement_position hs c position position']
    exact bind_congr fun extended => ih hss extended _ _

/-- The squeezed statements of lines do not depend on their numbers. -/
lemma squeezed_statementsFrom (number : Nat) (source : List Char) :
    (statementsFrom number source).map Statement.squeezed =
      (statements source).map Statement.squeezed := by
  rw [statementsFrom, statements_eq, statementsFrom, squeezed_statementsOf, squeezed_statementsOf,
    map_char_marksFrom, map_char_marksFrom]

/-- Without a version header a program is read as the same circuit behind other lines. -/
lemma IsHeaderless.addStatements_iff {source : List Char} (h : IsHeaderless source)
    (position number : Nat) (c : Circuit) :
    addStatements .empty position (statementsFrom number source) = .ok c ↔
      readProgram source = .ok c := by
  have hbehind := addStatements_squeezed .empty position (statementsFrom number source)
  have halone := addStatements_squeezed .empty 0 (statements source)
  have hsqueezed : ∀ s ∈ (statements source).map Statement.squeezed,
      firstWord s.text ≠ "OPENQASM".toList := by
    intro t ht
    obtain ⟨s, hs, rfl⟩ := List.mem_map.1 ht
    rw [Statement.squeezed, firstWord_squeeze]
    exact h s hs
  rw [squeezed_statementsFrom, addStatements_position hsqueezed _ position 0] at hbehind
  exact (hbehind.symm.trans halone).ok_iff c

/-! ### Include statements in code -/

/-- An include statement up to the name of the file. -/
def includeFront : List Char :=
  "include \"".toList

/-- A run that starts as an include statement makes one. -/
lemma exists_ofMarks?_include {run : List Mark} {rest : List Char}
    (h : run.map Mark.char = includeFront ++ rest) (terminated : Bool) :
    ∃ s, Statement.ofMarks? terminated run = some s ∧ s.terminated = terminated ∧
      firstWord s.text = "include".toList := by
  obtain ⟨m, run, rfl⟩ : ∃ m ms, run = m :: ms := by
    refine List.exists_cons_of_ne_nil ?_
    rintro rfl
    cases h
  have hm : Text.isBlank m.char = false := by
    rw [(List.cons.inj h).1]
    decide
  have htext : Text.trimEnd ((m :: run).map Mark.char) =
      "include".toList ++ ' ' :: '"' :: Text.trimEnd rest := by
    rw [h]
    exact Text.trimEnd_append_of_visible (by decide) "include ".toList rest
  refine ⟨⟨m.line, Text.trimEnd ((m :: run).map Mark.char), terminated⟩, ?_, rfl, ?_⟩
  · unfold Statement.ofMarks?
    rw [List.dropWhile_cons_of_neg (by simp [hm])]
  · rw [htext]
    exact firstWord_append (by decide) (stops_isWordChar_blank _)

/-- Code that starts as an include statement has one as its first statement. -/
lemma exists_statementsOf_include {code : List Mark} {rest : List Char}
    (h : code.map Mark.char = includeFront ++ rest) :
    ∃ s others, statementsOf code = s :: others ∧ firstWord s.text = "include".toList := by
  obtain ⟨front, behind, rfl, hfront, -⟩ := List.map_eq_append_iff.1 h
  have hsemicolon : ∀ m ∈ front, m.char ≠ ';' := by
    intro m hm heq
    have hmem := List.mem_map_of_mem (f := Mark.char) hm
    rw [hfront, heq] at hmem
    exact absurd hmem (by decide)
  have hrun : ∀ run : List Mark, (front ++ run).map Mark.char = includeFront ++ run.map Mark.char :=
    fun run => by rw [List.map_append, hfront]
  rw [statementsOf_eq, splitRuns_append_code, splitRuns_of_forall_ne hsemicolon]
  rcases splitRuns behind with ⟨_ | ⟨run, closed⟩, last⟩
  · obtain ⟨s, hs, -, hword⟩ := exists_ofMarks?_include (hrun last) false
    exact ⟨s, [], by simp [hs], hword⟩
  · obtain ⟨s, hs, -, hword⟩ := exists_ofMarks?_include (hrun run) true
    exact ⟨s, closed.filterMap (Statement.ofMarks? true) ++
      (Statement.ofMarks? false last).toList, by simp [hs], hword⟩

/-! ### Include lines -/

/-- A comment hides what stands behind it. -/
lemma cutComment_append_of_ne {line : List Char} (h : cutComment line ≠ line) (rest : List Char) :
    cutComment (line ++ rest) = cutComment line := by
  fun_induction cutComment line with
  | case1 tail => rfl
  | case2 c line hkeep ih =>
    have hline : cutComment line ≠ line := fun heq => h (by rw [heq])
    rw [List.cons_append, cutComment, ih hline]
    rintro tail rfl happend
    cases line with
    | nil => exact hline rfl
    | cons d line => exact hkeep line rfl (by rw [(List.cons.inj happend).1])
  | case3 => exact absurd rfl h

/-- The line that includes a file. -/
def includeLine (path : List Char) : List Char :=
  includeFront ++ path ++ "\";\n".toList

/-- The name of a file as it may stand between quotes, on one line. -/
structure IsQuotable (path : List Char) : Prop where
  quote : '"' ∉ path
  lineFeed : '\n' ∉ path
  carriageReturn : '\r' ∉ path

variable {path : List Char}

/-- The include line of a file is the first line of the program behind it. -/
lemma lines_includeLine (h : IsQuotable path) (rest : List Char) :
    Text.lines (includeLine path ++ rest) =
      (includeFront ++ (path ++ "\";".toList)) :: Text.lines rest := by
  have hfeed : '\n' ∉ includeFront ++ (path ++ "\";".toList) := by
    simp only [List.mem_append, not_or]
    exact ⟨by decide, h.lineFeed, by decide⟩
  have hreturn : '\r' ∉ includeFront ++ (path ++ "\";".toList) := by
    simp only [List.mem_append, not_or]
    exact ⟨by decide, h.carriageReturn, by decide⟩
  rw [← Text.lines_append hfeed hreturn rest]
  simp [includeLine]

/-- No comment starts in front of the name of the file. -/
lemma cutComment_includeFront (rest : List Char) :
    cutComment (includeFront ++ rest) = includeFront ++ cutComment rest :=
  cutComment_append (by decide : cutComment "include ".toList = "include ".toList)
    (by decide : '"' ≠ '/') rest

/-- The characters of a line that starts as an include statement. -/
lemma map_char_includeFront (number : Nat) (rest : List Char) :
    (lineMarks number (includeFront ++ rest)).map Mark.char =
      includeFront ++ (cutComment rest ++ [' ']) := by
  rw [map_char_lineMarks, cutComment_includeFront, List.append_assoc]
  rfl

/-- The include line of a file whose name has no slashes next to each other and no semicolon is one
statement. -/
lemma exists_statements_includeLine (h : IsQuotable path) (hsemicolon : ';' ∉ path)
    (hslashes : ¬ ['/', '/'] <:+: path) :
    ∃ s, statements (includeLine path) = [s] ∧ s.IsInclude := by
  have hcut : cutComment (includeFront ++ (path ++ ['"'])) = includeFront ++ (path ++ ['"']) := by
    rw [cutComment_includeFront,
      cutComment_append (cutComment_eq_self_iff.2 hslashes) (by decide)]
    rfl
  have hstretch : IsStretch (includeFront ++ (path ++ ['"'])) := by
    refine ⟨cutComment_eq_self_iff.1 hcut, ?_, ?_, ?_⟩ <;> simp only [List.mem_append, not_or]
    · exact ⟨by decide, hsemicolon, by decide⟩
    · exact ⟨by decide, h.lineFeed, by decide⟩
    · exact ⟨by decide, h.carriageReturn, by decide⟩
  obtain ⟨s, hs, hclosed, hword⟩ :=
    exists_ofMarks?_include (map_char_map (includeFront ++ (path ++ ['"'])) 1) true
  have hline := statementsOf_stretch (List.forall_mem_nil _) hstretch 1 []
  rw [List.nil_append, List.nil_append, hs] at hline
  have htext : includeLine path = includeFront ++ (path ++ ['"']) ++ ';' :: '\n' :: [] := by
    simp [includeLine]
  exact ⟨s, by rw [statements, marks, htext, hline]; rfl, hclosed, hword⟩

/-- Two slashes in the name of a file hide the rest of its include line, when no semicolon stands in
front of them. The statement that the next line ends goes into the include statement. -/
lemma exists_statements_slashed (h : IsQuotable path) (hslashes : ['/', '/'] <:+: path)
    (hsemicolon : ';' ∉ cutComment path) {body : List Char} (hbody : IsStretch body)
    (more : List Char) :
    ∃ s, statements (includeLine path ++ (body ++ ';' :: '\n' :: more)) =
      s :: statementsFrom 3 more ∧ s.IsInclude := by
  have hcut : cutComment path ≠ path := fun heq => cutComment_eq_self_iff.1 heq hslashes
  -- the code of the include line, which the next line goes on with
  have hfront := map_char_includeFront 1 (path ++ "\";".toList)
  rw [cutComment_append_of_ne hcut] at hfront
  have hopen : ∀ m ∈ lineMarks 1 (includeFront ++ (path ++ "\";".toList)), m.char ≠ ';' := by
    intro m hm heq
    have hmem := List.mem_map_of_mem (f := Mark.char) hm
    rw [hfront, heq, List.mem_append, List.mem_append] at hmem
    rcases hmem with hmem | hmem | hmem
    · exact absurd hmem (by decide)
    · exact hsemicolon hmem
    · exact absurd hmem (by decide)
  have hchars : (lineMarks 1 (includeFront ++ (path ++ "\";".toList)) ++
      body.map (⟨·, 2⟩ : Char → Mark)).map Mark.char =
        includeFront ++ (cutComment path ++ [' '] ++ body) := by
    rw [List.map_append, hfront, map_char_map, List.append_assoc]
  obtain ⟨s, hs, hclosed, hword⟩ := exists_ofMarks?_include hchars true
  refine ⟨s, ?_, hclosed, hword⟩
  rw [statements, marks, lines_includeLine h, marksFrom, statementsOf_stretch hopen hbody, hs]
  rfl

/-! ### Transparent files -/

/-- The include line of a file changes nothing, whatever program stands behind it. -/
def IsTransparent (path : List Char) : Prop :=
  ∀ rest, IsHeaderless rest → ∀ c,
    readProgram (includeLine path ++ rest) = .ok c ↔ readProgram rest = .ok c

/-- A file is transparent exactly when nothing but include statements stands on its line. -/
lemma isTransparent_iff (h : IsQuotable path) :
    IsTransparent path ↔ ∀ s ∈ statements (includeLine path), s.IsInclude := by
  constructor
  · intro htransparent
    -- with nothing behind it the line leaves the empty circuit
    have hread : readProgram (includeLine path ++ []) = .ok .empty :=
      (htransparent [] nofun .empty).2 rfl
    have hmarks : marks (includeLine path ++ []) =
        lineMarks 1 (includeFront ++ (path ++ "\";".toList)) := by
      rw [marks, lines_includeLine h, marksFrom]
      exact List.append_nil _
    obtain ⟨s, others, hstatements, hword⟩ :=
      exists_statementsOf_include (map_char_includeFront 1 (path ++ "\";".toList))
    rw [← hmarks, ← statements] at hstatements
    rw [readProgram, hstatements] at hread
    obtain ⟨extended, hs, hothers⟩ := of_bind_eq_ok hread
    obtain rfl := (step_of_addStatement hs).begins.antisymm (begins_of_addStatements hothers)
    rw [List.append_nil] at hstatements
    rw [hstatements, List.forall_mem_cons]
    exact ⟨⟨terminated_of_addStatement hs, hword⟩, isInclude_of_addStatements hothers⟩
  · intro hincludes rest hrest c
    have hwhole : IsWhole (includeLine path) :=
      ⟨.inr (by simp [includeLine]), fun s hs => (hincludes s hs).terminated⟩
    have hread : readProgram (includeLine path) = .ok .empty :=
      addStatements_of_isInclude hincludes .empty 0
    rw [hwhole.readProgram_append, hread]
    exact hrest.addStatements_iff _ _ c

/-- What becomes of the line that includes a file and of the program behind it. -/
structure IncludesFile (path : List Char) : Prop where
  /-- The file is transparent exactly when nothing but include statements stands on its line. -/
  transparent_iff : IsTransparent path ↔ ∀ s ∈ statements (includeLine path), s.IsInclude
  /-- So it is when its name has neither a semicolon nor two slashes next to each other. -/
  transparent_of_plain : ';' ∉ path → ¬ ['/', '/'] <:+: path → IsTransparent path
  /-- Two slashes that no semicolon stands in front of hide the next statement, whatever it says. -/
  swallows : ['/', '/'] <:+: path → ';' ∉ cutComment path → ∀ body more, IsStretch body →
    IsHeaderless more → ∀ c,
      readProgram (includeLine path ++ (body ++ ';' :: '\n' :: more)) = .ok c ↔
        readProgram more = .ok c

/-- A program is read behind the include line of a file as it is alone, unless other statements than
includes stand on that line. It is read without its first line when the name of the file has two
slashes next to each other and no semicolon in front of them. -/
theorem readProgram_includeLine (h : IsQuotable path) : IncludesFile path := by
  refine ⟨isTransparent_iff h, fun hsemicolon hslashes => ?_, ?_⟩
  · obtain ⟨s, hstatements, hs⟩ := exists_statements_includeLine h hsemicolon hslashes
    rw [isTransparent_iff h, hstatements, List.forall_mem_singleton]
    exact hs
  · intro hslashes hsemicolon body more hbody hmore c
    obtain ⟨s, hstatements, hs⟩ := exists_statements_slashed h hslashes hsemicolon hbody more
    rw [readProgram, hstatements, addStatements_cons (hs.addStatement .empty 0)]
    exact hmore.addStatements_iff _ 3 c

/-- A file in a folder. -/
def plainPath : List Char :=
  "/usr/share/qelib1.inc".toList

/-- The same file by a path with two slashes next to each other. -/
def slashedPath : List Char :=
  "/usr/share//qelib1.inc".toList

/-- A program that declares two registers. -/
def registerPair : List Char :=
  "qreg q[1];\nqreg r[2];\n".toList

/-- Both registers are read behind the file in a folder, and only the second of them behind the same
file by the other path. -/
theorem readProgram_includeLine_paths :
    (IsQuotable plainPath ∧ IsQuotable slashedPath) ∧
      readProgram (includeLine plainPath ++ registerPair) = .ok ⟨[⟨"q", 1⟩, ⟨"r", 2⟩], [], [], 0⟩ ∧
      readProgram (includeLine slashedPath ++ registerPair) = .ok ⟨[⟨"r", 2⟩], [], [], 0⟩ := by
  have hplain : IsQuotable plainPath := ⟨by decide, by decide, by decide⟩
  have hslashed : IsQuotable slashedPath := ⟨by decide, by decide, by decide⟩
  have hpair : IsHeaderless registerPair := by decide +kernel
  have hbehind : IsHeaderless "qreg r[2];\n".toList := by decide +kernel
  have hfirst : IsStretch "qreg q[1]".toList :=
    ⟨by decide, by decide, by decide, by decide⟩
  refine ⟨⟨hplain, hslashed⟩, ?_, ?_⟩
  · exact ((readProgram_includeLine hplain).transparent_of_plain (by decide +kernel)
      (by decide +kernel) registerPair hpair _).2 (by decide +kernel)
  · exact ((readProgram_includeLine hslashed).swallows (by decide +kernel) (by decide +kernel)
      _ _ hfirst hbehind _).2 (by decide +kernel)

/-- A register is lost behind a path with two slashes, without a fault. -/
theorem readProgram_slashedInclude :
    IsQuotable slashedPath ∧ IsHeaderless registerPair ∧
      readProgram registerPair = .ok ⟨[⟨"q", 1⟩, ⟨"r", 2⟩], [], [], 0⟩ ∧
      readProgram (includeLine slashedPath ++ registerPair) = .ok ⟨[⟨"r", 2⟩], [], [], 0⟩ ∧
      ¬ IsTransparent slashedPath := by
  have hpair : IsHeaderless registerPair := by decide +kernel
  have halone : readProgram registerPair = .ok ⟨[⟨"q", 1⟩, ⟨"r", 2⟩], [], [], 0⟩ := by
    decide +kernel
  have hbehind : readProgram (includeLine slashedPath ++ registerPair) =
      .ok ⟨[⟨"r", 2⟩], [], [], 0⟩ := by decide +kernel
  refine ⟨⟨by decide, by decide, by decide⟩, hpair, halone, hbehind, fun htransparent => ?_⟩
  have hsame := (htransparent registerPair hpair _).2 halone
  rw [hbehind] at hsame
  exact absurd hsame (by decide +kernel)

end CircuitBench.Qasm
