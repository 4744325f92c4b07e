import CircuitBench.Circuit.Qasm.Reading
import CircuitBench.Proofs.Text.Pieces

/-!
# Statements of a text with one statement a line

A text in which every line is one statement with its semicolon is cut into exactly these statements
(`statementsFrom_lines`). The blank that stands for the end of a line belongs to the run behind the
semicolon and is trimmed there. `IsStatementText` is a text that survives the removal of comments
and the cut at semicolons.
-/

namespace CircuitBench.Qasm

/-- The statements of a text whose first line has the given number. -/
def statementsFrom (number : Nat) (cs : List Char) : List Statement :=
  statementsOf (marksFrom number (Text.lines cs))

/-- The statements of a whole text are those from its first line. -/
lemma statements_eq (cs : List Char) : statements cs = statementsFrom 1 cs := rfl

/-! ### Runs between semicolons -/

/-- What stands behind the last semicolon goes on with the first run of the code behind it. -/
lemma splitRuns_append_code (code more : List Mark) :
    splitRuns (code ++ more) = match splitRuns more with
      | ([], last) => ((splitRuns code).1, (splitRuns code).2 ++ last)
      | (run :: others, last) =>
        ((splitRuns code).1 ++ ((splitRuns code).2 ++ run) :: others, last) := by
  induction code with
  | nil =>
    rw [List.nil_append]
    rcases splitRuns more with ⟨_ | ⟨run, others⟩, last⟩ <;> rfl
  | cons m code ih =>
    rw [List.cons_append, splitRuns, ih, splitRuns]
    rcases splitRuns more with ⟨_ | ⟨run, others⟩, last⟩ <;>
      rcases splitRuns code with ⟨_ | ⟨run', others'⟩, last'⟩ <;>
      by_cases hm : m.char = ';' <;> simp [hm]

/-- Code without semicolons is one run that is not closed. -/
lemma splitRuns_of_forall_ne {run : List Mark} (h : ∀ m ∈ run, m.char ≠ ';') :
    splitRuns run = ([], run) := by
  induction run with
  | nil => rfl
  | cons m run ih =>
    obtain ⟨hm, hrun⟩ := List.forall_mem_cons.1 h
    rw [splitRuns, ih hrun]
    simp only [hm, if_false]

/-- A run up to the first semicolon is the first of the closed runs. -/
lemma splitRuns_append {run : List Mark} {m : Mark} (hrun : ∀ x ∈ run, x.char ≠ ';')
    (hm : m.char = ';') (rest : List Mark) :
    splitRuns (run ++ m :: rest) = (run :: (splitRuns rest).1, (splitRuns rest).2) := by
  have hrest : splitRuns (m :: rest) = ([] :: (splitRuns rest).1, (splitRuns rest).2) := by
    rw [splitRuns]
    simp only [hm, if_true]
  rw [splitRuns_append_code, hrest, splitRuns_of_forall_ne hrun]
  dsimp only
  rw [List.nil_append, List.append_nil]

/-- The first statement is made of the run up to the first semicolon. -/
lemma statementsOf_append {run : List Mark} {m : Mark} (hrun : ∀ x ∈ run, x.char ≠ ';')
    (hm : m.char = ';') (rest : List Mark) :
    statementsOf (run ++ m :: rest) =
      (Statement.ofMarks? true run).toList ++ statementsOf rest := by
  unfold statementsOf
  rw [splitRuns_append hrun hm]
  cases h : Statement.ofMarks? true run with
  | none => simp [h]
  | some s => simp [h]

/-- A blank in front of a run does not change its statement. -/
lemma ofMarks?_cons {m : Mark} (h : Text.isBlank m.char = true) (terminated : Bool)
    (run : List Mark) :
    Statement.ofMarks? terminated (m :: run) = Statement.ofMarks? terminated run := by
  unfold Statement.ofMarks?
  rw [List.dropWhile_cons, if_pos h]

/-- A blank in front of code does not change its statements. -/
lemma statementsOf_cons {m : Mark} (h : Text.isBlank m.char = true) (rest : List Mark) :
    statementsOf (m :: rest) = statementsOf rest := by
  have hm : m.char ≠ ';' := by
    intro hsemicolon
    rw [hsemicolon] at h
    exact absurd h (by decide)
  unfold statementsOf
  rw [splitRuns]
  rcases splitRuns rest with ⟨closed, last⟩
  cases closed with
  | nil => simp only [hm, if_false, ofMarks?_cons h]
  | cons run others => simp only [hm, if_false, List.filterMap_cons, ofMarks?_cons h]

/-! ### Comments -/

/-- A line is all code when no two slashes stand next to each other. -/
lemma cutComment_eq_self_iff {line : List Char} :
    cutComment line = line ↔ ¬ ['/', '/'] <:+: line := by
  fun_induction cutComment line with
  | case1 tail => exact iff_of_false nofun (not_not.2 ⟨[], tail, rfl⟩)
  | case2 c line hkeep ih =>
    have hstart : ¬ ['/', '/'] <+: c :: line := by
      rintro ⟨tail, htail⟩
      obtain ⟨hc, hrest⟩ := List.cons.inj htail
      exact hkeep tail hc.symm hrest.symm
    rw [List.cons.injEq, List.infix_cons_iff, not_or, ih]
    exact ⟨fun h => ⟨hstart, h.2⟩, fun h => ⟨rfl, h.2⟩⟩
  | case3 => exact iff_of_true rfl (by simp)

/-- Code without comments stays as it is in front of other characters than slashes. -/
lemma cutComment_append {code : List Char} {d : Char} (h : cutComment code = code) (hd : d ≠ '/')
    (rest : List Char) : cutComment (code ++ d :: rest) = code ++ d :: cutComment rest := by
  fun_induction cutComment code with
  | case1 tail => cases h
  | case2 c code hkeep ih =>
    rw [List.cons_append, cutComment, ih (List.cons.inj h).2, List.cons_append]
    rintro tail rfl happend
    cases code with
    | nil => exact hd (List.cons.inj happend).1
    | cons e code =>
      obtain rfl : e = '/' := (List.cons.inj happend).1
      exact hkeep code rfl rfl
  | case3 =>
    rw [List.nil_append, cutComment]
    · rfl
    · rintro tail rfl
      exact absurd rfl hd

/-! ### Lines -/

/-- The characters of code that stands on one line. -/
lemma map_char_map (body : List Char) (number : Nat) :
    (body.map (⟨·, number⟩ : Char → Mark)).map Mark.char = body := by
  rw [List.map_map]
  exact List.map_id _

/-- A stretch of code on one line: nothing in it ends a statement or the line, or starts a
comment. -/
structure IsStretch (body : List Char) : Prop where
  slashes : ¬ ['/', '/'] <:+: body
  semicolon : ';' ∉ body
  lineFeed : '\n' ∉ body
  carriageReturn : '\r' ∉ body

/-- The code of a line that a semicolon ends. -/
lemma lineMarks_stretch {body : List Char} (h : IsStretch body) (number : Nat) :
    lineMarks number (body ++ [';']) =
      body.map (⟨·, number⟩) ++ [⟨';', number⟩, ⟨' ', number⟩] := by
  have hcut := cutComment_append (cutComment_eq_self_iff.2 h.slashes) (d := ';') (by decide) []
  rw [lineMarks, hcut]
  simp [cutComment]

/-- The first line that a semicolon ends closes the statement that started in front of it, and the
lines behind it make statements of their own. -/
lemma statementsOf_stretch {before : List Mark} (hbefore : ∀ m ∈ before, m.char ≠ ';')
    {body : List Char} (h : IsStretch body) (number : Nat) (rest : List Char) :
    statementsOf (before ++ marksFrom number (Text.lines (body ++ ';' :: '\n' :: rest))) =
      (Statement.ofMarks? true (before ++ body.map (⟨·, number⟩))).toList ++
        statementsFrom (number + 1) rest := by
  have hfeed : '\n' ∉ body ++ [';'] := by
    rw [List.mem_append, not_or]
    exact ⟨h.lineFeed, by decide⟩
  have hreturn : '\r' ∉ body ++ [';'] := by
    rw [List.mem_append, not_or]
    exact ⟨h.carriageReturn, by decide⟩
  have hrun : ∀ m ∈ before ++ body.map (⟨·, number⟩ : Char → Mark), m.char ≠ ';' := by
    refine List.forall_mem_append.2 ⟨hbefore, fun m hm => ?_⟩
    obtain ⟨c, hc, rfl⟩ := List.mem_map.1 hm
    exact ne_of_mem_of_not_mem hc h.semicolon
  have hlines := Text.lines_append hfeed hreturn rest
  rw [List.append_assoc, List.singleton_append] at hlines
  rw [hlines, marksFrom, lineMarks_stretch h, List.append_assoc, ← List.append_assoc before,
    List.cons_append, statementsOf_append hrun rfl, List.singleton_append,
    statementsOf_cons (by rfl)]
  rfl

/-- A text without separators, comments or ends of lines. -/
def IsClean (cs : List Char) : Prop :=
  ∀ c ∈ cs, c ≠ ';' ∧ c ≠ '/' ∧ c ≠ '\n' ∧ c ≠ '\r'

instance (cs : List Char) : Decidable (IsClean cs) :=
  List.decidableBAll _ cs

/-- A text is clean when all its parts are. -/
lemma isClean_append {cs ds : List Char} : IsClean (cs ++ ds) ↔ IsClean cs ∧ IsClean ds := by
  simp only [IsClean, List.mem_append]
  exact ⟨fun h => ⟨fun c hc => h c (.inl hc), fun c hc => h c (.inr hc)⟩,
    fun h c hc => hc.elim (h.1 c) (h.2 c)⟩

/-- A clean text is a stretch of code. -/
lemma IsClean.isStretch {body : List Char} (h : IsClean body) : IsStretch body where
  slashes hslashes := (h '/' (hslashes.subset (by decide))).2.1 rfl
  semicolon hmem := (h _ hmem).1 rfl
  lineFeed hmem := (h _ hmem).2.2.1 rfl
  carriageReturn hmem := (h _ hmem).2.2.2 rfl

/-- A text of one statement: nothing in it ends it or hides a part of it, and no blanks stand at its
ends. -/
structure IsStatementText (body : List Char) : Prop where
  ne_nil : body ≠ []
  trimmed : Text.IsTrimmed body
  clean : IsClean body

/-- A text that starts a statement and has nothing behind it but blanks. -/
structure StartsStatement (body : List Char) : Prop where
  ne_nil : body ≠ []
  front : Text.Stops Text.isBlank body
  clean : IsClean body

/-- The text of a statement starts it. -/
lemma IsStatementText.starts {body : List Char} (h : IsStatementText body) : StartsStatement body :=
  ⟨h.ne_nil, h.trimmed.front, h.clean⟩

/-- The statement of a run of code on one line. -/
lemma ofMarks?_map {body : List Char} (h : StartsStatement body) (terminated : Bool)
    (number : Nat) : Statement.ofMarks? terminated (body.map (⟨·, number⟩)) =
      some ⟨number, Text.trimEnd body, terminated⟩ := by
  obtain ⟨c, cs, rfl⟩ := List.exists_cons_of_ne_nil h.ne_nil
  have hc := Text.stops_cons.1 h.front
  unfold Statement.ofMarks?
  rw [List.map_cons, List.dropWhile_cons_of_neg (by simp [hc])]
  simp only [List.map_cons, List.map_map, Function.comp_def, List.map_id']

/-- A line with one statement is the first statement. -/
lemma statementsFrom_statement {body : List Char} (h : StartsStatement body) (number : Nat)
    (rest : List Char) :
    statementsFrom number (body ++ ';' :: '\n' :: rest) =
      ⟨number, Text.trimEnd body, true⟩ :: statementsFrom (number + 1) rest := by
  have hline := statementsOf_stretch (List.forall_mem_nil _) h.clean.isStretch number rest
  rw [List.nil_append, List.nil_append, ofMarks?_map h] at hline
  exact hline

/-- An empty line has no statement. -/
lemma statementsFrom_emptyLine (number : Nat) (rest : List Char) :
    statementsFrom number ('\n' :: rest) = statementsFrom (number + 1) rest := by
  unfold statementsFrom
  rw [Text.lines, marksFrom]
  rfl

/-- The statements that stand on lines of their own, numbered from the given line. -/
def numbered (number : Nat) (bodies : List (List Char)) : List Statement :=
  (bodies.zipIdx number).map fun (body, line) => ⟨line, body, true⟩

/-- The first statement has the given line, and the others follow. -/
lemma numbered_cons (number : Nat) (body : List Char) (bodies : List (List Char)) :
    numbered number (body :: bodies) = ⟨number, body, true⟩ :: numbered (number + 1) bodies := by
  simp [numbered, List.zipIdx_cons]

/-- Statements behind other statements have the lines behind theirs. -/
lemma numbered_append (number : Nat) (bodies others : List (List Char)) :
    numbered number (bodies ++ others) =
      numbered number bodies ++ numbered (number + bodies.length) others := by
  simp [numbered, List.zipIdx_append]

/-- A text with one statement a line has these statements. -/
lemma statementsFrom_lines {bodies : List (List Char)} (h : ∀ body ∈ bodies, StartsStatement body)
    (number : Nat) : statementsFrom number (bodies.map (· ++ [';', '\n'])).flatten =
      numbered number (bodies.map Text.trimEnd) := by
  induction bodies generalizing number with
  | nil => rfl
  | cons body bodies ih =>
    rw [List.map_cons, List.flatten_cons, List.append_assoc, List.cons_append, List.cons_append,
      List.nil_append, statementsFrom_statement (h body List.mem_cons_self), List.map_cons,
      numbered_cons, ih fun other hother => h other (List.mem_cons_of_mem _ hother)]

/-! ### Statement by statement -/

/-- The first statement extends the circuit that the others start from. -/
lemma addStatements_cons {c d : Circuit} {position : Nat} {s : Statement}
    (h : addStatement c position s = .ok d) (others : List Statement) :
    addStatements c position (s :: others) = addStatements d (position + 1) others := by
  rw [addStatements, h]
  rfl

/-- Statements behind other statements extend what the others made, or are not reached. -/
lemma addStatements_append_eq (c : Circuit) (position : Nat) (ss others : List Statement) :
    addStatements c position (ss ++ others) =
      addStatements c position ss >>= fun d => addStatements d (position + ss.length) others := by
  induction ss generalizing c position with
  | nil => rfl
  | cons s ss ih =>
    rw [List.cons_append, addStatements, addStatements]
    rcases addStatement c position s with e | extended
    · rfl
    · change addStatements extended (position + 1) (ss ++ others) =
        addStatements extended (position + 1) ss >>= _
      rw [ih, List.length_cons, Nat.add_assoc, Nat.add_comm 1]

/-- Statements behind other statements extend what the others made. -/
lemma addStatements_append {c d : Circuit} {position : Nat} {ss : List Statement}
    (h : addStatements c position ss = .ok d) (others : List Statement) :
    addStatements c position (ss ++ others) =
      addStatements d (position + ss.length) others := by
  rw [addStatements_append_eq, h]
  rfl

/-- Statements that extend the circuit one by one, each after those before it, extend it
together. -/
lemma addStatements_numbered {α : Type} (body : α → List Char) (step : Circuit → α → Circuit)
    (inv : Circuit → List α → Prop)
    (hstep : ∀ c x xs, inv c (x :: xs) → inv (step c x) xs ∧
      ∀ line position, 0 < position →
        addStatement c position ⟨line, body x, true⟩ = .ok (step c x))
    {c : Circuit} {xs : List α} (h : inv c xs) (line : Nat) {position : Nat} (hpos : 0 < position) :
    addStatements c position (numbered line (xs.map body)) = .ok (xs.foldl step c) := by
  induction xs generalizing c line position with
  | nil => rfl
  | cons x xs ih =>
    obtain ⟨hinv, hok⟩ := hstep c x xs h
    rw [List.map_cons, numbered_cons, addStatements_cons (hok line position hpos)]
    exact ih hinv (line + 1) (Nat.succ_pos position)

end CircuitBench.Qasm
