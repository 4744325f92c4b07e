import CircuitBench.Proofs.Circuit.Qasm.Flattening

/-!
# Programs are read from left to right

The code behind whole lines whose statements are all closed makes statements of its own: at most
blanks are left over behind the last semicolon, and blanks in front of a statement do not count
(`statementsOf_append_code`). So the reading of a program goes on behind such lines with the circuit
that was read so far. It has the fault that was met first, and no statement changes what an earlier
one has made (`begins_of_addStatements`).

`IsWhole` is a text of whole lines and closed statements, which can be told from its last visible
character (`eq_semicolon_of_closed`), and `Continues` is how a program is read behind another text;
`readProgram_leftToRight` says that all programs are read so.
-/

namespace CircuitBench

/-- The registers and the commands of a circuit stand in front of those of another one, which has
the same phase. -/
structure Circuit.Begins (c d : Circuit) : Prop where
  qregs : c.qregs <+: d.qregs
  cregs : c.cregs <+: d.cregs
  commands : c.commands <+: d.commands
  phase_eq : d.phase = c.phase

/-- A circuit begins itself. -/
lemma Circuit.Begins.refl (c : Circuit) : c.Begins c :=
  ⟨List.prefix_rfl, List.prefix_rfl, List.prefix_rfl, rfl⟩

/-- What begins a beginning begins the whole. -/
lemma Circuit.Begins.trans {c d e : Circuit} (h : c.Begins d) (h' : d.Begins e) : c.Begins e :=
  ⟨h.qregs.trans h'.qregs, h.cregs.trans h'.cregs, h.commands.trans h'.commands,
    h'.phase_eq.trans h.phase_eq⟩

/-- Circuits that begin each other are the same. -/
lemma Circuit.Begins.antisymm {c d : Circuit} (h : c.Begins d) (h' : d.Begins c) : d = c := by
  obtain ⟨qregs, cregs, commands, phase⟩ := d
  obtain rfl : qregs = c.qregs := h'.qregs.eq_of_length_le h.qregs.length_le
  obtain rfl : cregs = c.cregs := h'.cregs.eq_of_length_le h.cregs.length_le
  obtain rfl : commands = c.commands := h'.commands.eq_of_length_le h.commands.length_le
  obtain rfl : phase = c.phase := h.phase_eq
  rfl

end CircuitBench

namespace CircuitBench.Qasm

/-! ### Code behind code -/

/-- The code of lines behind other lines. -/
lemma marksFrom_append (number : Nat) (lines more : List (List Char)) :
    marksFrom number (lines ++ more) =
      marksFrom number lines ++ marksFrom (number + lines.length) more := by
  induction lines generalizing number with
  | nil => rfl
  | cons line lines ih =>
    rw [List.cons_append, marksFrom, marksFrom, ih, List.append_assoc, List.length_cons,
      Nat.add_right_comm, Nat.add_assoc]

/-- The statements of code are those of its closed runs and of what stands behind them. -/
lemma statementsOf_eq (code : List Mark) :
    statementsOf code = (splitRuns code).1.filterMap (Statement.ofMarks? true) ++
      (Statement.ofMarks? false (splitRuns code).2).toList := rfl

/-- Blanks alone make no statement. -/
lemma ofMarks?_eq_none_iff (terminated : Bool) {run : List Mark} :
    Statement.ofMarks? terminated run = none ↔ ∀ m ∈ run, Text.isBlank m.char = true := by
  unfold Statement.ofMarks?
  rw [← List.dropWhile_eq_nil_iff]
  cases run.dropWhile (Text.isBlank ·.char) <;> simp

/-- Blanks in front of a run do not change its statement. -/
lemma ofMarks?_append_of_isBlank {blanks : List Mark}
    (h : ∀ m ∈ blanks, Text.isBlank m.char = true) (terminated : Bool) (run : List Mark) :
    Statement.ofMarks? terminated (blanks ++ run) = Statement.ofMarks? terminated run := by
  induction blanks with
  | nil => rfl
  | cons m blanks ih =>
    obtain ⟨hm, hblanks⟩ := List.forall_mem_cons.1 h
    rw [List.cons_append, ofMarks?_cons hm, ih hblanks]

/-- A statement is closed when its run is. -/
lemma terminated_of_ofMarks? {terminated : Bool} {run : List Mark} {s : Statement}
    (h : Statement.ofMarks? terminated run = some s) : s.terminated = terminated := by
  unfold Statement.ofMarks? at h
  split at h
  · cases h
  · cases h
    rfl

/-- All statements are closed when nothing but blanks stands behind the last semicolon. -/
lemma forall_terminated_iff {code : List Mark} :
    (∀ s ∈ statementsOf code, s.terminated = true) ↔
      ∀ m ∈ (splitRuns code).2, Text.isBlank m.char = true := by
  rw [← ofMarks?_eq_none_iff false, statementsOf_eq]
  constructor
  · intro h
    rcases hlast : Statement.ofMarks? false (splitRuns code).2 with _ | s
    · rfl
    · have hs := h s (List.mem_append_right _ (by rw [hlast]; exact List.mem_singleton_self s))
      rw [terminated_of_ofMarks? hlast] at hs
      cases hs
  · intro hlast s hs
    rw [hlast, Option.toList_none, List.append_nil] at hs
    obtain ⟨run, -, hrun⟩ := List.mem_filterMap.1 hs
    exact terminated_of_ofMarks? hrun

/-- Code behind closed statements has the statements that it has alone. -/
lemma statementsOf_append_code {code : List Mark}
    (h : ∀ s ∈ statementsOf code, s.terminated = true) (more : List Mark) :
    statementsOf (code ++ more) = statementsOf code ++ statementsOf more := by
  have hblanks := forall_terminated_iff.1 h
  have hnone := (ofMarks?_eq_none_iff false).2 hblanks
  have hskip := ofMarks?_append_of_isBlank hblanks
  rw [statementsOf_eq, statementsOf_eq, statementsOf_eq, splitRuns_append_code, hnone]
  rcases splitRuns more with ⟨_ | ⟨run, others⟩, last⟩
  · simp [hskip]
  · simp [List.filterMap_cons, hskip]

/-! ### Statements only add -/

/-- A step leaves the registers and commands that are there in front. -/
lemma Step.begins {c d : Circuit} (h : Step c d) : c.Begins d := by
  cases h with
  | same => exact .refl _
  | @declare kind r =>
    cases kind with
    | qubit => exact ⟨List.prefix_append _ _, List.prefix_rfl, List.prefix_rfl, rfl⟩
    | bit => exact ⟨List.prefix_rfl, List.prefix_append _ _, List.prefix_rfl, rfl⟩
  | push => exact ⟨List.prefix_rfl, List.prefix_rfl, List.prefix_append _ _, rfl⟩

/-- Statements leave the registers and commands that are there in front. -/
lemma begins_of_addStatements {c d : Circuit} {position : Nat} {ss : List Statement}
    (h : addStatements c position ss = .ok d) : c.Begins d := by
  induction ss generalizing c position with
  | nil =>
    cases h
    exact .refl _
  | cons s ss ih =>
    obtain ⟨extended, hs, h⟩ := of_bind_eq_ok h
    exact (step_of_addStatement hs).begins.trans (ih h)

/-! ### Open statements -/

/-- A statement that is accepted is closed. -/
lemma terminated_of_addStatement {c d : Circuit} {position : Nat} {s : Statement}
    (h : addStatement c position s = .ok d) : s.terminated = true := by
  unfold addStatement at h
  dsimp only at h
  generalize String.ofList (firstWord s.text) = keyword at h
  rcases hclosed : s.terminated with _ | _
  · rcases hkeyword : isUnsupportedKeyword keyword with _ | _
    · rw [hclosed, hkeyword] at h
      cases h
    · -- the keywords of statements that need no semicolon are refused
      rw [hclosed, hkeyword, if_neg (by decide)] at h
      simp only [isUnsupportedKeyword, Bool.or_eq_true, beq_iff_eq] at hkeyword
      rcases hkeyword with (rfl | rfl) | rfl <;> cases h
  · rfl

/-- Statements that are accepted are closed. -/
lemma forall_terminated_of_addStatements {c d : Circuit} {position : Nat} {ss : List Statement}
    (h : addStatements c position ss = .ok d) : ∀ s ∈ ss, s.terminated = true := by
  induction ss generalizing c position with
  | nil => exact fun s hs => absurd hs List.not_mem_nil
  | cons s ss ih =>
    obtain ⟨extended, hs, h⟩ := of_bind_eq_ok h
    exact List.forall_mem_cons.2 ⟨terminated_of_addStatement hs, ih h⟩

/-- The characters of a program outside comments that are no blanks. -/
def visibleCode (source : List Char) : List Char :=
  ((Text.lines source).flatMap cutComment).filter (!Text.isBlank ·)

/-- The visible characters of the code are those of its lines. -/
lemma filter_marks (source : List Char) :
    ((marks source).map Mark.char).filter (!Text.isBlank ·) = visibleCode source := by
  have hline : ∀ code : List Char,
      (if code.isEmpty then [] else code ++ [' ']).filter (!Text.isBlank ·) =
        code.filter (!Text.isBlank ·) := by
    intro code
    split_ifs with hempty
    · rw [List.isEmpty_iff.1 hempty]
    · rw [List.filter_append]
      exact List.append_nil _
  rw [marks, map_char_marksFrom, visibleCode, List.filter_flatMap, List.filter_flatMap,
    List.flatMap_map]
  simp only [hline]

/-- What stands behind the last semicolon is all of the code, or a semicolon stands in front of
it. -/
lemma eq_append_splitRuns (code : List Mark) :
    ((splitRuns code).1 = [] ∧ code = (splitRuns code).2) ∨
      (splitRuns code).1 ≠ [] ∧
        ∃ before m, m.char = ';' ∧ code = before ++ m :: (splitRuns code).2 := by
  induction code with
  | nil => exact .inl ⟨rfl, rfl⟩
  | cons m code ih =>
    rw [splitRuns]
    generalize splitRuns code = runs at ih ⊢
    obtain ⟨closed, last⟩ := runs
    by_cases hm : m.char = ';'
    · refine .inr ⟨by simp [hm], ?_⟩
      rcases ih with ⟨-, rfl⟩ | ⟨-, before, m', hm', rfl⟩
      · exact ⟨[], m, hm, by simp [hm]⟩
      · exact ⟨m :: before, m', hm', by simp [hm]⟩
    · rcases ih with ⟨rfl, rfl⟩ | ⟨hne, before, m', hm', rfl⟩
      · exact .inl (by simp [hm])
      · obtain ⟨run, others, rfl⟩ := List.exists_cons_of_ne_nil hne
        exact .inr ⟨by simp [hm], m :: before, m', hm', by simp [hm]⟩

/-- When all statements are closed, the last visible character is a semicolon. -/
lemma eq_semicolon_of_closed {source : List Char}
    (h : ∀ s ∈ statements source, s.terminated = true) {c : Char}
    (hc : c ∈ (visibleCode source).getLast?) : c = ';' := by
  have hlast : ((splitRuns (marks source)).2.map Mark.char).filter (!Text.isBlank ·) = [] := by
    refine List.filter_eq_nil_iff.2 fun d hd => ?_
    obtain ⟨m, hm, rfl⟩ := List.mem_map.1 hd
    rw [forall_terminated_iff.1 h m hm]
    decide
  rw [← filter_marks] at hc
  rcases eq_append_splitRuns (marks source) with ⟨-, hcode⟩ | ⟨-, before, m, hm, hcode⟩
  · rw [hcode, hlast] at hc
    cases hc
  · have hvisible : (!Text.isBlank m.char) = true := by
      rw [hm]
      decide
    rw [hcode, List.map_append, List.map_cons, List.filter_append, List.filter_cons,
      if_pos hvisible, hlast, List.getLast?_concat] at hc
    rw [← Option.some.inj hc, hm]

/-! ### Programs -/

/-- A text of whole lines in which every statement is closed. -/
structure IsWhole (source : List Char) : Prop where
  /-- The last line is ended, if there is one. -/
  lineFeed : source = [] ∨ source.getLast? = some '\n'
  /-- Every statement has its semicolon. -/
  closed : ∀ s ∈ statements source, s.terminated = true

/-- The statements of whole lines stand in front of those of the lines behind them. -/
lemma IsWhole.statements_append {before : List Char} (h : IsWhole before) (after : List Char) :
    statements (before ++ after) =
      statements before ++ statementsFrom ((Text.lines before).length + 1) after := by
  have hlast : ∀ c ∈ before.getLast?, c = '\n' := by
    intro c hc
    rcases h.lineFeed with rfl | hfeed
    · cases hc
    · rw [hfeed] at hc
      exact (Option.some.inj hc).symm
  have hclosed : ∀ s ∈ statementsOf (marksFrom 1 (Text.lines before)), s.terminated = true :=
    h.closed
  rw [statements, marks, Text.lines_append_of_getLast? hlast, marksFrom_append,
    statementsOf_append_code hclosed, Nat.add_comm 1]
  rfl

/-- Behind whole lines the reading goes on with the circuit that was read. -/
lemma IsWhole.readProgram_append {before : List Char} (h : IsWhole before) (after : List Char) :
    readProgram (before ++ after) = readProgram before >>= fun c =>
      addStatements c (statements before).length
        (statementsFrom ((Text.lines before).length + 1) after) := by
  rw [readProgram, h.statements_append, addStatements_append_eq, Nat.zero_add]
  rfl

/-- A program is read behind another text as that text began. -/
structure Continues (before after : List Char) : Prop where
  /-- What comes after makes statements of its own. -/
  statements_eq : statements (before ++ after) =
    statements before ++ statementsFrom ((Text.lines before).length + 1) after
  /-- They extend the circuit that was read before. -/
  read_eq : readProgram (before ++ after) = readProgram before >>= fun c =>
    addStatements c (statements before).length
      (statementsFrom ((Text.lines before).length + 1) after)
  /-- A fault that was met before is the fault of the whole. -/
  first_fault : ∀ e, readProgram before = .error e → readProgram (before ++ after) = .error e
  /-- What was read before stands in front of what is read of the whole. -/
  begins : ∀ c, readProgram (before ++ after) = .ok c →
    ∃ first, readProgram before = .ok first ∧ first.Begins c

/-- Programs are read from left to right: behind whole lines the reading goes on with the circuit
that was read, and a fault is kept. A program whose last visible character is no semicolon is
refused. -/
theorem readProgram_leftToRight :
    (∀ before after, IsWhole before → Continues before after) ∧
      ∀ source, ∀ c ∈ (visibleCode source).getLast?, c ≠ ';' →
        ∃ e, readProgram source = .error e := by
  constructor
  · intro before after hwhole
    have hread := hwhole.readProgram_append after
    refine ⟨hwhole.statements_append after, hread, fun e he => ?_, fun c hc => ?_⟩
    · rw [hread, he]
      rfl
    · rw [hread] at hc
      obtain ⟨first, hfirst, hmore⟩ := of_bind_eq_ok hc
      exact ⟨first, hfirst, begins_of_addStatements hmore⟩
  · intro source c hc hne
    rcases hread : readProgram source with e | d
    · exact ⟨e, rfl⟩
    · exact absurd (eq_semicolon_of_closed (forall_terminated_of_addStatements hread) hc) hne

/-- A program of whole lines with blanks and a comment behind its last semicolon. -/
def declaringLines : List Char :=
  "OPENQASM 2.0;\nqreg q[2]; x\n  q[0]; \t // one qubit\n".toList

/-- A program of whole lines with a fault on the second one. -/
def faultyLines : List Char :=
  "qreg q[2];\nh q[2];\n".toList

/-- Lines that declare a register again. -/
def furtherLines : List Char :=
  "x q[1];\nqreg q[1]".toList

/-- A command on two lines, the second of which ends in a comment. -/
def commandLines : List Char :=
  "cx q[0],\n q[1]; // done;".toList

/-- A program that is cut within its last statement. -/
def cutProgram : List Char :=
  "qreg q[2]; h q[0] // ;\n".toList

/-- The declaring lines begin what is read when a command follows, the fault of the faulty lines is
kept when others follow, and the cut program is refused. -/
theorem readProgram_leftToRight_lines :
    (IsWhole declaringLines ∧ ∃ c first, readProgram (declaringLines ++ commandLines) = .ok c ∧
      readProgram declaringLines = .ok first ∧ first.Begins c) ∧
    (IsWhole faultyLines ∧ readProgram (faultyLines ++ furtherLines) =
      .error (.statement 2 (.indexBeyondSize 2 "q" 2))) ∧
    ∃ e, readProgram cutProgram = .error e := by
  obtain ⟨hcontinues, hcut⟩ := readProgram_leftToRight
  have hdeclaring : IsWhole declaringLines := ⟨.inr (by decide +kernel), by decide +kernel⟩
  have hfaulty : IsWhole faultyLines := ⟨.inr (by decide +kernel), by decide +kernel⟩
  obtain ⟨c, hc⟩ : ∃ c, readProgram (declaringLines ++ commandLines) = .ok c :=
    ⟨⟨[⟨"q", 2⟩], [], [⟨"X", [], [⟨"q", 0⟩]⟩, ⟨"CX", [], [⟨"q", 0⟩, ⟨"q", 1⟩]⟩], 0⟩,
      by decide +kernel⟩
  obtain ⟨first, hfirst, hbegins⟩ := (hcontinues _ commandLines hdeclaring).begins c hc
  refine ⟨⟨hdeclaring, c, first, hc, hfirst, hbegins⟩, ⟨hfaulty, ?_⟩, ?_⟩
  · exact (hcontinues _ furtherLines hfaulty).first_fault _ (by decide +kernel)
  · exact hcut cutProgram ']' (by decide +kernel) (by decide)

end CircuitBench.Qasm
