import CircuitBench.Proofs.Circuit.Qasm.Continuation

/-!
# The visible code of a program and its places

A character of a program is given by its place, the number of characters in front of it. Its line is
counted by the line feeds in front of it (`lineNumber`), and it is hidden by a comment when two
slashes start there or in front, with no line feed in between (`IsOutsideComments`). The code that
is cut into statements has its lines and its comments from the cut of the text into lines. Both
agree on the visible characters: those of the code are the visible characters of the text outside
comments, in their order and with their lines (`visibleMarks_marks`).
-/

namespace CircuitBench.Qasm

/-! ### Places -/

/-- The number of the line on which a place is: one more than the line feeds in front of it. -/
def lineNumber (source : List Char) (i : Nat) : Nat :=
  (source.take i).count '\n' + 1

/-- The character at a place; behind the text there are blanks. -/
def charAt (source : List Char) (i : Nat) : Char :=
  source.getD i ' '

/-- A place is outside comments when a line feed separates it from all slashes next to each other
that do not start behind it. -/
def IsOutsideComments (source : List Char) (i : Nat) : Prop :=
  ∀ j ≤ i, ['/', '/'] <+: source.drop j → '\n' ∈ (source.take i).drop j

instance (source : List Char) (i : Nat) : Decidable (IsOutsideComments source i) :=
  inferInstanceAs
    (Decidable (∀ j ≤ i, ['/', '/'] <+: source.drop j → '\n' ∈ (source.take i).drop j))

/-- A visible character of the code stands at a place. -/
structure IsVisible (source : List Char) (i : Nat) : Prop where
  outside : IsOutsideComments source i
  not_blank : Text.isBlank (charAt source i) = false

variable {source : List Char} {i : Nat}

/-- The two conditions of a visible place. -/
lemma isVisible_iff :
    IsVisible source i ↔ IsOutsideComments source i ∧ Text.isBlank (charAt source i) = false :=
  ⟨fun h => ⟨h.1, h.2⟩, fun h => ⟨h.1, h.2⟩⟩

instance (source : List Char) (i : Nat) : Decidable (IsVisible source i) :=
  decidable_of_iff' _ isVisible_iff

/-- The places of the visible code, from left to right. -/
def visiblePlaces (source : List Char) : List Nat :=
  (List.range source.length).filter (IsVisible source ·)

/-- The character at a place with its line. -/
def markAt (source : List Char) (i : Nat) : Mark :=
  ⟨charAt source i, lineNumber source i⟩

/-- A place that is farther right is not on an earlier line. -/
lemma lineNumber_mono (source : List Char) {i j : Nat} (h : i ≤ j) :
    lineNumber source i ≤ lineNumber source j :=
  Nat.succ_le_succ ((List.take_prefix_take_left h).sublist.count_le _)

/-- The visible places are in order. -/
lemma pairwise_visiblePlaces (source : List Char) : (visiblePlaces source).Pairwise (· < ·) :=
  List.pairwise_lt_range.filter _

/-- No blank stands at a visible place. -/
lemma isBlank_charAt (h : i ∈ visiblePlaces source) : Text.isBlank (charAt source i) = false := by
  have hvisible : IsVisible source i := by simpa using (List.mem_filter.1 h).2
  exact hvisible.not_blank

/-! ### From one place to the next -/

variable {c : Char} {rest : List Char}

/-- The character that the text behind a place starts with. -/
lemma charAt_of_drop (h : source.drop i = c :: rest) : charAt source i = c := by
  rw [charAt, List.getD_eq_getElem?_getD, ← List.head?_drop, h]
  rfl

/-- The text behind the next place. -/
lemma drop_succ_of_drop (h : source.drop i = c :: rest) : source.drop (i + 1) = rest := by
  rw [← List.tail_drop, h, List.tail_cons]

/-- The text in front of the next place. -/
lemma take_succ_of_drop (h : source.drop i = c :: rest) :
    source.take (i + 1) = source.take i ++ [c] := by
  rw [List.take_add_one, ← List.head?_drop, h]
  rfl

/-- A line feed is the last character of its line. -/
lemma lineNumber_succ (h : source.drop i = c :: rest) :
    lineNumber source (i + 1) =
      if c = '\n' then lineNumber source i + 1 else lineNumber source i := by
  rw [lineNumber, take_succ_of_drop h, List.count_append, List.count_singleton, lineNumber]
  split_ifs <;> simp_all

/-- No comment that starts in front of a place goes on up to it. -/
def IsCommentFree (source : List Char) (i : Nat) : Prop :=
  ∀ j < i, ['/', '/'] <+: source.drop j → '\n' ∈ (source.take i).drop j

/-- No comment goes on at the beginning. -/
lemma isCommentFree_zero (source : List Char) : IsCommentFree source 0 :=
  fun j hj => absurd hj (Nat.not_lt_zero j)

/-- A place is outside comments when none goes on up to it and none starts there. -/
lemma isOutsideComments_iff :
    IsOutsideComments source i ↔ IsCommentFree source i ∧ ¬ ['/', '/'] <+: source.drop i := by
  constructor
  · intro h
    refine ⟨fun j hj => h j hj.le, fun hslashes => ?_⟩
    have hmem := h i le_rfl hslashes
    rw [List.drop_eq_nil_of_le (List.length_take_le _ _)] at hmem
    cases hmem
  · rintro ⟨hfree, hslashes⟩ j hj hj'
    rcases hj.lt_or_eq with hlt | rfl
    · exact hfree j hlt hj'
    · exact absurd hj' hslashes

/-- A line feed ends all comments, and other characters none. -/
lemma isCommentFree_succ (h : source.drop i = c :: rest) :
    IsCommentFree source (i + 1) ↔ c = '\n' ∨ IsOutsideComments source i := by
  have hlength : (source.take i).length = i := by
    have hlt : i < source.length := by
      rw [← List.drop_eq_nil_iff.not.trans Nat.not_le, h]
      exact List.cons_ne_nil _ _
    exact List.length_take_of_le hlt.le
  have hmem : ∀ j ≤ i, '\n' ∈ (source.take (i + 1)).drop j ↔
      '\n' ∈ (source.take i).drop j ∨ c = '\n' := by
    intro j hj
    rw [take_succ_of_drop h, List.drop_append_of_le_length (hj.trans_eq hlength.symm),
      List.mem_append, List.mem_singleton, eq_comm (a := c)]
  by_cases hc : c = '\n'
  · exact iff_of_true (fun j hj _ => (hmem j (Nat.le_of_lt_succ hj)).2 (.inr hc)) (.inl hc)
  · rw [or_iff_right hc]
    refine forall_congr' fun j => ?_
    rw [Nat.lt_succ_iff]
    exact forall₂_congr fun hj _ => (hmem j hj).trans (or_iff_left hc)

/-! ### Code without blanks -/

/-- Code without its blanks. -/
def visibleMarks (code : List Mark) : List Mark :=
  code.filter (!Text.isBlank ·.char)

/-- The visible code of code behind other code. -/
lemma visibleMarks_append (code more : List Mark) :
    visibleMarks (code ++ more) = visibleMarks code ++ visibleMarks more :=
  List.filter_append ..

/-- A visible character is kept. -/
lemma visibleMarks_cons_of_visible {m : Mark} (h : Text.isBlank m.char = false)
    (code : List Mark) : visibleMarks (m :: code) = m :: visibleMarks code :=
  List.filter_cons_of_pos (by simp [h])

/-- A blank is left out. -/
lemma visibleMarks_cons_of_isBlank {m : Mark} (h : Text.isBlank m.char = true)
    (code : List Mark) : visibleMarks (m :: code) = visibleMarks code :=
  List.filter_cons_of_neg (by simp [h])

/-- Code without blanks is visible. -/
lemma visibleMarks_eq_self {code : List Mark} (h : ∀ m ∈ code, Text.isBlank m.char = false) :
    visibleMarks code = code :=
  List.filter_eq_self.2 fun m hm => by simp [h m hm]

/-- Blanks are left out only once. -/
lemma visibleMarks_visibleMarks (code : List Mark) :
    visibleMarks (visibleMarks code) = visibleMarks code :=
  visibleMarks_eq_self fun m hm => by simpa using (List.mem_filter.1 hm).2

/-- The characters of the visible code. -/
lemma map_char_visibleMarks (code : List Mark) :
    (visibleMarks code).map Mark.char = (code.map Mark.char).filter (!Text.isBlank ·) := by
  rw [List.filter_map]
  rfl

/-- The blank behind the code of a line is left out. -/
lemma visibleMarks_lineMarks (number : Nat) (line : List Char) :
    visibleMarks (lineMarks number line) = visibleMarks ((cutComment line).map (⟨·, number⟩)) := by
  rw [lineMarks]
  split_ifs with hempty
  · rw [List.isEmpty_iff.1 hempty]
    rfl
  · rw [List.map_append, visibleMarks_append]
    exact List.append_nil _

/-- Semicolons are visible, so the runs of the visible code are the runs of the code without their
blanks. -/
lemma splitRuns_visibleMarks (code : List Mark) :
    splitRuns (visibleMarks code) =
      ((splitRuns code).1.map visibleMarks, visibleMarks (splitRuns code).2) := by
  induction code with
  | nil => rfl
  | cons m code ih =>
    rw [splitRuns]
    generalize splitRuns code = runs at ih ⊢
    obtain ⟨closed, last⟩ := runs
    by_cases hm : m.char = ';'
    · rw [visibleMarks_cons_of_visible (by rw [hm]; decide), splitRuns, ih]
      simp only [hm, if_true, List.map_cons]
      rfl
    · by_cases hblank : Text.isBlank m.char = true
      · rw [visibleMarks_cons_of_isBlank hblank, ih]
        cases closed <;> simp [hm, visibleMarks_cons_of_isBlank hblank]
      · rw [Bool.not_eq_true] at hblank
        rw [visibleMarks_cons_of_visible hblank, splitRuns, ih]
        cases closed <;> simp [hm, visibleMarks_cons_of_visible hblank]

/-! ### The code behind a place -/

/-- The visible code at the places from one on. -/
def codeFrom (source : List Char) (i count : Nat) : List Mark :=
  ((List.range' i count).filter (IsVisible source ·)).map (markAt source)

/-- A place that is not visible is left out. -/
lemma codeFrom_succ_of_not_isVisible (h : ¬ IsVisible source i) (count : Nat) :
    codeFrom source i (count + 1) = codeFrom source (i + 1) count := by
  rw [codeFrom, List.range'_succ, List.filter_cons_of_neg (by simpa using h), codeFrom]

/-- Outside comments the character is kept, if it is no blank. -/
lemma codeFrom_succ_of_outside (h : IsOutsideComments source i) (count : Nat) :
    codeFrom source i (count + 1) =
      visibleMarks [markAt source i] ++ codeFrom source (i + 1) count := by
  rcases hblank : Text.isBlank (charAt source i) with _ | _
  · have hvisible : IsVisible source i := ⟨h, hblank⟩
    rw [visibleMarks_cons_of_visible (m := markAt source i) hblank, codeFrom, List.range'_succ,
      List.filter_cons_of_pos (by simpa using hvisible)]
    rfl
  · have hnot : ¬ IsVisible source i := by
      rw [isVisible_iff, hblank]
      exact nofun
    rw [visibleMarks_cons_of_isBlank (m := markAt source i) hblank,
      codeFrom_succ_of_not_isVisible hnot]
    rfl

/-- The code of lines is that of the first one and that of the others. -/
lemma marksFrom_eq (number : Nat) (lines : List (List Char)) :
    marksFrom number lines =
      lineMarks number (lines.headD []) ++ marksFrom (number + 1) lines.tail := by
  cases lines <;> rfl

/-- A character that starts no comment is code of the first line, if it is no blank. -/
lemma visibleMarks_firstLine {cs : List Char} (hc : c ≠ '\n')
    (hslashes : ¬ ['/', '/'] <+: c :: cs) (number : Nat) :
    visibleMarks (lineMarks number ((Text.lines (c :: cs)).headD [])) =
      visibleMarks [⟨c, number⟩] ++
        visibleMarks (lineMarks number ((Text.lines cs).headD [])) := by
  rw [visibleMarks_lineMarks, visibleMarks_lineMarks]
  rcases Text.headD_lines_cons hc cs with hfirst | ⟨rfl, hfirst, hnext⟩
  · rw [hfirst, cutComment]
    · exact visibleMarks_append [_] _
    · rintro tail rfl htail
      obtain ⟨tail', rfl⟩ := List.head?_eq_some_iff.1 (Text.head?_of_headD_lines htail)
      exact hslashes ⟨tail', rfl⟩
  · rw [hfirst, hnext]
    rfl

/-- Two slashes hide the line that they start. -/
lemma visibleMarks_firstLine_of_slashes {cs : List Char} (h : ['/', '/'] <+: cs) (number : Nat) :
    visibleMarks (lineMarks number ((Text.lines cs).headD [])) = [] := by
  obtain ⟨tail, rfl⟩ := h
  have hslash : ∀ cs, (Text.lines ('/' :: cs)).headD [] = '/' :: (Text.lines cs).headD [] :=
    fun cs => (Text.headD_lines_cons (by decide) cs).resolve_right fun h => absurd h.1 (by decide)
  rw [visibleMarks_lineMarks, List.cons_append, List.cons_append, List.nil_append, hslash, hslash]
  rfl

/-- The visible code behind a place stands at the visible places from there on. If a comment goes on
up to the place, the code of the first line is hidden. -/
lemma visibleMarks_marksFrom (h : source.drop i = rest) :
    (IsCommentFree source i →
      visibleMarks (marksFrom (lineNumber source i) (Text.lines rest)) =
        codeFrom source i rest.length) ∧
    (¬ IsCommentFree source i →
      visibleMarks (marksFrom (lineNumber source i + 1) (Text.lines rest).tail) =
        codeFrom source i rest.length) := by
  induction rest generalizing i with
  | nil => exact ⟨fun _ => rfl, fun _ => rfl⟩
  | cons c rest ih =>
    obtain ⟨ihfree, ihcomment⟩ := ih (drop_succ_of_drop h)
    rw [lineNumber_succ h, isCommentFree_succ h] at ihfree ihcomment
    have hchar : charAt source i = c := charAt_of_drop h
    rw [List.length_cons]
    by_cases hc : c = '\n'
    · -- behind a line feed the next line starts, whether a comment ends here or not
      have hvisible : ¬ IsVisible source i := by
        rw [isVisible_iff, hchar, hc]
        exact fun hblank => absurd hblank.2 (by decide)
      have hrest := ihfree (.inl hc)
      rw [if_pos hc] at hrest
      rw [codeFrom_succ_of_not_isVisible hvisible, ← hrest, hc]
      exact ⟨fun _ => rfl, fun _ => rfl⟩
    · rw [if_neg hc, or_iff_right hc] at ihfree ihcomment
      have hhidden : ¬ IsOutsideComments source i →
          visibleMarks (marksFrom (lineNumber source i + 1) (Text.lines (c :: rest)).tail) =
            codeFrom source i (rest.length + 1) := by
        intro houtside
        rw [codeFrom_succ_of_not_isVisible fun hvisible => houtside hvisible.outside,
          ← ihcomment houtside, Text.tail_lines_cons hc]
      refine ⟨fun hfree => ?_, fun hfree => ?_⟩
      · rw [marksFrom_eq, visibleMarks_append]
        by_cases hslashes : ['/', '/'] <+: c :: rest
        · rw [visibleMarks_firstLine_of_slashes hslashes, List.nil_append]
          exact hhidden fun houtside => (isOutsideComments_iff.1 houtside).2 (h ▸ hslashes)
        · have houtside := isOutsideComments_iff.2 ⟨hfree, h ▸ hslashes⟩
          rw [visibleMarks_firstLine hc hslashes, Text.tail_lines_cons hc, List.append_assoc,
            ← visibleMarks_append, ← marksFrom_eq, ihfree houtside,
            codeFrom_succ_of_outside houtside, markAt, hchar]
      · exact hhidden fun houtside => hfree (isOutsideComments_iff.1 houtside).1

/-- The visible code of a program stands at its visible places. -/
lemma visibleMarks_marks (source : List Char) :
    visibleMarks (marks source) = (visiblePlaces source).map (markAt source) := by
  have hmarks := (visibleMarks_marksFrom (List.drop_zero (l := source))).1
    (isCommentFree_zero source)
  rwa [codeFrom, ← List.range_eq_range'] at hmarks

end CircuitBench.Qasm
