import Mathlib
import CircuitBench.Text.Lines

/-!
# Spans, trimmed texts and pieces

What the readers' cuts do to a text that was put together from parts: a span ends where the next
part begins (`Stops`), a trimmed text stays as it is, and the pieces of joined pieces are the pieces
again (`splitOnChar_join`, `join_splitOnChar`). The lines of a text are cut off one by one
(`lines_append`), also behind whole lines (`lines_append_of_getLast?`).
-/

namespace CircuitBench.Text

/-! ### Spans -/

/-- A text that is empty or starts with a character outside a class. -/
def Stops (p : Char → Bool) (cs : List Char) : Prop :=
  ∀ c ∈ cs.head?, p c = false

/-- An empty text does not go on. -/
@[simp] lemma stops_nil (p : Char → Bool) : Stops p [] := by
  intro c hc
  cases hc

/-- A text goes on with a class exactly when its first character belongs to it. -/
@[simp] lemma stops_cons {p : Char → Bool} {c : Char} {cs : List Char} :
    Stops p (c :: cs) ↔ p c = false := by
  simp [Stops]

instance (p : Char → Bool) : (cs : List Char) → Decidable (Stops p cs)
  | [] => isTrue (stops_nil p)
  | _ :: _ => decidable_of_iff _ stops_cons.symm

/-- What is left behind a span of a class does not go on with it. -/
lemma stops_dropWhile (p : Char → Bool) (cs : List Char) : Stops p (cs.dropWhile p) := by
  intro c hc
  have hhead := List.head?_dropWhile_not p cs
  rw [Option.mem_def.1 hc] at hhead
  simpa using hhead

/-- A run of a class ends where the text stops. -/
lemma takeWhile_append {p : Char → Bool} {run rest : List Char} (hrun : run.all p = true)
    (hrest : Stops p rest) : (run ++ rest).takeWhile p = run := by
  rw [List.takeWhile_append_of_pos (by simpa using hrun)]
  cases rest with
  | nil => simp
  | cons c rest =>
    rw [stops_cons] at hrest
    simp [hrest]

/-- Without the run of a class, what is left is where the text stops. -/
lemma dropWhile_append {p : Char → Bool} {run rest : List Char} (hrun : run.all p = true)
    (hrest : Stops p rest) : (run ++ rest).dropWhile p = rest := by
  rw [List.dropWhile_append_of_pos (by simpa using hrun)]
  cases rest with
  | nil => simp
  | cons c rest =>
    rw [stops_cons] at hrest
    simp [hrest]

/-! ### Trimmed texts -/

/-- The visible ASCII characters are no blanks. -/
lemma isBlank_of_visible {c : Char} (hlow : 0x21 ≤ c.toNat) (hhigh : c.toNat ≤ 0x7E) :
    isBlank c = false := by
  unfold isBlank
  simp only [Bool.or_eq_false_iff, Bool.and_eq_false_iff, decide_eq_false_iff_not,
    beq_eq_false_iff_ne, ne_eq]
  omega

/-- A character that a class holds is none that it does not hold. -/
lemma ne_of_class {p : Char → Bool} {c d : Char} (hc : p c = true) (hd : p d = false) : c ≠ d := by
  rintro rfl
  rw [hc] at hd
  cases hd

/-- A class of visible characters holds no blank. -/
lemma not_of_isBlank {p : Char → Bool} (hp : ∀ c, p c = true → isBlank c = false) {c : Char}
    (hc : isBlank c = true) : p c = false := by
  by_contra h
  rw [Bool.not_eq_false] at h
  rw [hp c h] at hc
  cases hc

/-- Letters and digits are no blanks. -/
lemma isBlank_of_isAlphanum {c : Char} (h : c.isAlphanum = true) : isBlank c = false := by
  simp only [Char.isAlphanum, Char.isAlpha, Char.isUpper, Char.isLower, Char.isDigit,
    Bool.or_eq_true, Bool.and_eq_true, decide_eq_true_eq, UInt32.le_iff_toNat_le, ge_iff_le] at h
  have hnat : c.val.toNat = c.toNat := rfl
  rw [hnat] at h
  apply isBlank_of_visible
  · rcases h with (h | h) | h <;> exact Nat.le_trans (by decide) h.1
  · rcases h with (h | h) | h <;> exact Nat.le_trans h.2 (by decide)

/-- Digits are no blanks. -/
lemma isBlank_of_isDigit {c : Char} (h : c.isDigit = true) : isBlank c = false :=
  isBlank_of_isAlphanum (by simp [Char.isAlphanum, h])

/-- A text that starts with another character keeps its front. -/
lemma trimStart_of_stops {cs : List Char} (h : Stops isBlank cs) : trimStart cs = cs := by
  cases cs with
  | nil => rfl
  | cons c cs => exact trimStart_cons_of_not_isBlank (stops_cons.1 h) cs

/-- What is left without the blanks in front is not longer. -/
lemma length_trimStart_le (cs : List Char) : (trimStart cs).length ≤ cs.length :=
  (List.dropWhile_sublist _).length_le

/-- Behind the first character that is not blank, less is left. -/
lemma length_lt_of_trimStart {c : Char} {cs rest : List Char} (h : trimStart cs = c :: rest) :
    rest.length < cs.length := by
  have hle := length_trimStart_le cs
  rw [h, List.length_cons] at hle
  omega

/-- What is left when blanks are dropped does not start with a blank. -/
lemma stops_trimStart (cs : List Char) : Stops isBlank (trimStart cs) :=
  stops_dropWhile isBlank cs

/-- The first character behind the blanks is not blank. -/
lemma isBlank_of_trimStart {c : Char} {cs rest : List Char} (h : trimStart cs = c :: rest) :
    isBlank c = false := by
  have hstops := stops_trimStart cs
  rw [h] at hstops
  exact stops_cons.1 hstops

/-- Blanks are dropped only once. -/
@[simp] lemma trimStart_trimStart (cs : List Char) : trimStart (trimStart cs) = trimStart cs :=
  trimStart_of_stops (stops_trimStart cs)

/-- A text without blanks at its ends. -/
structure IsTrimmed (cs : List Char) : Prop where
  front : Stops isBlank cs
  back : Stops isBlank cs.reverse

instance (cs : List Char) : Decidable (IsTrimmed cs) :=
  decidable_of_iff (Stops isBlank cs ∧ Stops isBlank cs.reverse)
    ⟨fun h => ⟨h.1, h.2⟩, fun h => ⟨h.front, h.back⟩⟩

/-- Without the blanks at its ends, a trimmed text is itself. -/
lemma IsTrimmed.trimEnd_eq {cs : List Char} (h : IsTrimmed cs) : trimEnd cs = cs := by
  have := trimStart_of_stops h.back
  unfold trimStart at this
  rw [trimEnd, this, List.reverse_reverse]

/-- Without the blanks at its ends, a trimmed text is itself. -/
lemma IsTrimmed.trim_eq {cs : List Char} (h : IsTrimmed cs) : trim cs = cs := by
  rw [trim, trimStart_of_stops h.front, h.trimEnd_eq]

/-- A text that starts and ends with trimmed parts is trimmed, whatever stands between them. -/
lemma IsTrimmed.between {before after : List Char} (hbefore : IsTrimmed before)
    (hbeforene : before ≠ []) (middle : List Char) (hafter : IsTrimmed after)
    (hafterne : after ≠ []) : IsTrimmed (before ++ (middle ++ after)) := by
  constructor
  · obtain ⟨c, cs, rfl⟩ := List.exists_cons_of_ne_nil hbeforene
    exact stops_cons.2 (stops_cons.1 hbefore.front)
  · have hback := hafter.back
    obtain ⟨c, cs, hrev⟩ := List.exists_cons_of_ne_nil (mt List.reverse_eq_nil_iff.1 hafterne)
    rw [hrev] at hback
    rw [List.reverse_append, List.reverse_append, hrev]
    exact stops_cons.2 (stops_cons.1 hback)

/-- A text of other characters only is trimmed. -/
lemma isTrimmed_of_all {cs : List Char} (h : ∀ c ∈ cs, isBlank c = false) : IsTrimmed cs := by
  constructor
  · intro c hc
    exact h c (List.mem_of_mem_head? hc)
  · intro c hc
    exact h c (List.mem_reverse.1 (List.mem_of_mem_head? hc))

/-- Blanks in front of a trimmed text do not count. -/
lemma IsTrimmed.trim_cons {c : Char} {cs : List Char} (h : IsTrimmed cs) (hc : isBlank c = true) :
    trim (c :: cs) = cs := by
  rw [trim, trimStart_cons_of_isBlank hc, trimStart_of_stops h.front, h.trimEnd_eq]

/-- Blanks behind a trimmed text do not count. -/
lemma IsTrimmed.trimEnd_append {c : Char} {cs : List Char} (h : IsTrimmed cs)
    (hc : isBlank c = true) : trimEnd (cs ++ [c]) = cs := by
  rw [trimEnd, List.reverse_append, List.reverse_singleton, List.singleton_append,
    List.dropWhile_cons_of_pos hc]
  exact h.trimEnd_eq

/-- Blanks at the end of a text stand behind its visible characters. -/
lemma trimEnd_append_of_visible {c : Char} (hc : isBlank c = false) (cs ds : List Char) :
    trimEnd (cs ++ c :: ds) = cs ++ c :: trimEnd ds := by
  have hfront : ((cs ++ [c]).reverse).dropWhile isBlank = (cs ++ [c]).reverse := by
    rw [List.reverse_concat, List.dropWhile_cons_of_neg (by simp [hc])]
  unfold trimEnd
  rw [List.append_cons, List.reverse_append, List.dropWhile_append, hfront]
  split_ifs with hempty
  · rw [List.isEmpty_iff.1 hempty, List.reverse_reverse, List.reverse_nil]
  · rw [List.reverse_append, List.reverse_reverse, List.append_assoc, List.singleton_append]

/-- Blanks behind a trimmed text do not count, nor does the front. -/
lemma IsTrimmed.trim_append {c : Char} {cs : List Char} (h : IsTrimmed cs) (hne : cs ≠ [])
    (hc : isBlank c = true) : trim (cs ++ [c]) = cs := by
  have hfront : Stops isBlank (cs ++ [c]) := by
    obtain ⟨d, ds, rfl⟩ := List.exists_cons_of_ne_nil hne
    exact stops_cons.2 (stops_cons.1 h.front)
  rw [trim, trimStart_of_stops hfront, h.trimEnd_append hc]

/-- Blanks at the end of a text do not stand in front of its visible characters. -/
lemma trimEnd_cons_of_visible {c : Char} (hc : isBlank c = false) (cs : List Char) :
    trimEnd (c :: cs) = c :: trimEnd cs :=
  trimEnd_append_of_visible hc [] cs

/-- A text is blank when nothing is left of it without the blanks in front. -/
lemma trim_eq_nil_iff {cs : List Char} : trim cs = [] ↔ trimStart cs = [] := by
  refine ⟨fun h => ?_, fun h => by rw [trim, h, trimEnd_nil]⟩
  rcases hstart : trimStart cs with _ | ⟨c, rest⟩
  · rfl
  · rw [trim, hstart, trimEnd_cons_of_visible (isBlank_of_trimStart hstart)] at h
    cases h

/-- Texts that differ in the blanks in front do so with the same text behind them. -/
lemma trimStart_append_congr {cs ds : List Char} (h : trimStart cs = trimStart ds)
    (rest : List Char) : trimStart (cs ++ rest) = trimStart (ds ++ rest) := by
  unfold trimStart at h ⊢
  rw [List.dropWhile_append, List.dropWhile_append, h]

/-- A class that is dropped in front does not count when the whole class is left out. -/
lemma filter_dropWhile_not {α : Type} (p : α → Bool) (l : List α) :
    (l.dropWhile p).filter (!p ·) = l.filter (!p ·) := by
  have hspan : (l.takeWhile p).filter (!p ·) = [] :=
    List.filter_eq_nil_iff.2 fun a ha => by simp [List.mem_takeWhile_imp ha]
  calc (l.dropWhile p).filter (!p ·)
      = (l.takeWhile p ++ l.dropWhile p).filter (!p ·) := by
        rw [List.filter_append, hspan, List.nil_append]
    _ = l.filter (!p ·) := by rw [List.takeWhile_append_dropWhile]

/-- The first element outside a class is the one behind those of the class. -/
lemma head?_filter_not {α : Type} (p : α → Bool) (l : List α) :
    (l.filter (!p ·)).head? = (l.dropWhile p).head? := by
  induction l with
  | nil => rfl
  | cons a l ih =>
    by_cases ha : p a = true
    · rw [List.filter_cons_of_neg (by simp [ha]), List.dropWhile_cons_of_pos ha, ih]
    · rw [List.filter_cons_of_pos (by simpa using ha), List.dropWhile_cons_of_neg ha]
      rfl

/-- A text has its visible characters without the blanks at its ends. -/
lemma filter_trim (cs : List Char) : (trim cs).filter (!isBlank ·) = cs.filter (!isBlank ·) := by
  rw [trim, trimEnd, List.filter_reverse, filter_dropWhile_not, List.filter_reverse,
    List.reverse_reverse, trimStart, filter_dropWhile_not]

/-- Without the blanks at its ends a text is trimmed. -/
lemma isTrimmed_trim (cs : List Char) : IsTrimmed (trim cs) := by
  constructor
  · rw [trim]
    rcases hstart : trimStart cs with _ | ⟨c, rest⟩
    · exact stops_nil isBlank
    · have hc := isBlank_of_trimStart hstart
      rw [trimEnd_cons_of_visible hc]
      exact stops_cons.2 hc
  · rw [trim, trimEnd, List.reverse_reverse]
    exact stops_dropWhile isBlank _

/-- Without the blanks at its ends a text stands in itself. -/
lemma trim_infix (cs : List Char) : trim cs <:+: cs := by
  have hend : trim cs <+: trimStart cs := by
    rw [← List.reverse_suffix, trim, trimEnd, List.reverse_reverse]
    exact List.dropWhile_suffix _
  exact hend.isInfix.trans (List.dropWhile_suffix _).isInfix

/-! ### Pieces -/

/-- A text without the separator is one piece. -/
lemma splitOnChar_of_not_mem {sep : Char} {piece : List Char} (h : sep ∉ piece) :
    splitOnChar sep piece = [piece] := by
  induction piece with
  | nil => rfl
  | cons c piece ih =>
    rw [List.mem_cons, not_or] at h
    rw [splitOnChar, if_neg (Ne.symm h.1), ih h.2]

/-- The first piece ends at the first separator. -/
lemma splitOnChar_append {sep : Char} {piece : List Char} (h : sep ∉ piece) (rest : List Char) :
    splitOnChar sep (piece ++ sep :: rest) = piece :: splitOnChar sep rest := by
  induction piece with
  | nil => simp [splitOnChar]
  | cons c piece ih =>
    rw [List.mem_cons, not_or] at h
    rw [List.cons_append, splitOnChar, if_neg (Ne.symm h.1), ih h.2]

/-- A separator stands behind every joined piece but the last. -/
lemma join_cons_cons (sep first second : List Char) (others : List (List Char)) :
    join sep (first :: second :: others) = first ++ sep ++ join sep (second :: others) := by
  simp [join, List.intersperse]

/-- The first of several joined pieces stands in front. -/
lemma exists_join_cons (sep first : List Char) (others : List (List Char)) :
    ∃ rest, join sep (first :: others) = first ++ rest := by
  cases others with
  | nil => exact ⟨[], by simp [join]⟩
  | cons second others => exact ⟨_, by rw [join_cons_cons, List.append_assoc]⟩

/-- A single piece is joined to nothing. -/
@[simp] lemma join_singleton (sep piece : List Char) : join sep [piece] = piece := by
  simp [join]

/-- The pieces of joined pieces are the pieces. -/
lemma splitOnChar_join {sep : Char} {pieces : List (List Char)} (hne : pieces ≠ [])
    (h : ∀ piece ∈ pieces, sep ∉ piece) : splitOnChar sep (join [sep] pieces) = pieces := by
  induction pieces with
  | nil => exact absurd rfl hne
  | cons first others ih =>
    have hfirst := h first (by simp)
    cases others with
    | nil =>
      rw [join_singleton]
      exact splitOnChar_of_not_mem hfirst
    | cons second others =>
      rw [join_cons_cons, List.append_assoc, List.singleton_append, splitOnChar_append hfirst,
        ih (by simp) fun piece hpiece => h piece (List.mem_cons_of_mem _ hpiece)]

/-- The characters of joined pieces are those of the pieces and the separator. -/
lemma mem_join {sep : List Char} {pieces : List (List Char)} {c : Char}
    (h : c ∈ join sep pieces) : c ∈ sep ∨ ∃ piece ∈ pieces, c ∈ piece := by
  induction pieces with
  | nil => simp [join] at h
  | cons first others ih =>
    cases others with
    | nil =>
      rw [join_singleton] at h
      exact .inr ⟨first, by simp, h⟩
    | cons second others =>
      rw [join_cons_cons, List.append_assoc, List.mem_append, List.mem_append] at h
      rcases h with h | h | h
      · exact .inr ⟨first, by simp, h⟩
      · exact .inl h
      · rcases ih h with hsep | ⟨piece, hmem, hpiece⟩
        · exact .inl hsep
        · exact .inr ⟨piece, List.mem_cons_of_mem _ hmem, hpiece⟩

/-- Only a single empty piece is joined to nothing. -/
lemma of_join_cons_eq_nil {sep first : List Char} {others : List (List Char)} (hsep : sep ≠ [])
    (h : join sep (first :: others) = []) : first = [] ∧ others = [] := by
  cases others with
  | nil => exact ⟨(join_singleton sep first).symm.trans h, rfl⟩
  | cons second others =>
    rw [join_cons_cons, List.append_eq_nil_iff, List.append_eq_nil_iff] at h
    exact absurd h.1.2 hsep

/-- A character in front of the first piece stands in front of all. -/
lemma join_cons_append (sep : List Char) (c : Char) (first : List Char)
    (others : List (List Char)) :
    join sep ((c :: first) :: others) = c :: join sep (first :: others) := by
  cases others with
  | nil => rw [join_singleton, join_singleton]
  | cons second others =>
    rw [join_cons_cons, join_cons_cons]
    rfl

/-- The pieces of a text are joined to it. -/
lemma join_splitOnChar (sep : Char) (cs : List Char) : join [sep] (splitOnChar sep cs) = cs := by
  induction cs with
  | nil => rfl
  | cons c cs ih =>
    obtain ⟨first, others, hcs⟩ := List.exists_cons_of_ne_nil (splitOnChar_ne_nil sep cs)
    rw [hcs] at ih
    rw [splitOnChar, hcs]
    split_ifs with hc
    · rw [join_cons_cons, ih, hc]
      rfl
    · rw [join_cons_append, ih]

/-- Every piece stands in the joined text. -/
lemma infix_join_of_mem {sep piece : List Char} {pieces : List (List Char)}
    (h : piece ∈ pieces) : piece <:+: join sep pieces := by
  induction pieces with
  | nil => cases h
  | cons first others ih =>
    rcases List.mem_cons.1 h with rfl | h
    · obtain ⟨rest, hrest⟩ := exists_join_cons sep piece others
      exact ⟨[], rest, hrest.symm⟩
    · obtain ⟨second, others, rfl⟩ := List.exists_cons_of_ne_nil (List.ne_nil_of_mem h)
      rw [join_cons_cons]
      exact (ih h).trans (List.suffix_append _ _).isInfix

/-- No piece has the separator. -/
lemma not_mem_of_mem_splitOnChar {sep : Char} {cs piece : List Char}
    (h : piece ∈ splitOnChar sep cs) : sep ∉ piece := by
  induction cs generalizing piece with
  | nil =>
    rw [List.mem_singleton.1 h]
    exact List.not_mem_nil
  | cons c cs ih =>
    obtain ⟨first, others, hcs⟩ := List.exists_cons_of_ne_nil (splitOnChar_ne_nil sep cs)
    rw [splitOnChar, hcs] at h
    rw [hcs] at ih
    split_ifs at h with hc
    · rcases List.mem_cons.1 h with rfl | h
      · exact List.not_mem_nil
      · exact ih h
    · rcases List.mem_cons.1 h with rfl | h
      · rw [List.mem_cons, not_or]
        exact ⟨Ne.symm hc, ih List.mem_cons_self⟩
      · exact ih (List.mem_cons_of_mem _ h)

/-- A separator whose first character does not come earlier cuts a text in two. -/
lemma splitAt?_append {c : Char} {sep before : List Char} (h : c ∉ before) (after : List Char) :
    splitAt? (c :: sep) (before ++ (c :: sep) ++ after) = some (before, after) := by
  induction before with
  | nil =>
    rw [List.nil_append, List.cons_append, splitAt?, if_pos (by simp)]
    simp
  | cons d before ih =>
    rw [List.mem_cons, not_or] at h
    rw [List.cons_append, List.cons_append, splitAt?, if_neg (by simp [h.1]), ih h.2]
    rfl

/-- A line feed ends the first line. -/
lemma lines_append {line : List Char} (hfeed : '\n' ∉ line) (hreturn : '\r' ∉ line)
    (rest : List Char) : lines (line ++ '\n' :: rest) = line :: lines rest := by
  induction line with
  | nil => simp [lines]
  | cons c line ih =>
    rw [List.mem_cons, not_or] at hfeed hreturn
    have hstep := fun tail =>
      lines.eq_4 c tail (Ne.symm hfeed.1) fun _ h => absurd h.symm hreturn.1
    rw [List.cons_append, hstep, ih hfeed.2 hreturn.2]

/-- A character that is no line feed stands on the first line, unless it is a carriage return that
ends this line with the line feed behind it. -/
lemma headD_lines_cons {c : Char} (hc : c ≠ '\n') (cs : List Char) :
    (lines (c :: cs)).headD [] = c :: (lines cs).headD [] ∨
      c = '\r' ∧ (lines (c :: cs)).headD [] = [] ∧ (lines cs).headD [] = [] := by
  by_cases hreturn : c = '\r' ∧ ∃ rest, cs = '\n' :: rest
  · obtain ⟨rfl, rest, rfl⟩ := hreturn
    exact .inr ⟨rfl, rfl, rfl⟩
  · rw [lines.eq_4 c cs hc fun rest h h' => hreturn ⟨h, rest, h'⟩]
    cases lines cs <;> exact .inl rfl

/-- A character that is no line feed does not change the lines behind the first one. -/
lemma tail_lines_cons {c : Char} (hc : c ≠ '\n') (cs : List Char) :
    (lines (c :: cs)).tail = (lines cs).tail := by
  by_cases hreturn : c = '\r' ∧ ∃ rest, cs = '\n' :: rest
  · obtain ⟨rfl, rest, rfl⟩ := hreturn
    rfl
  · rw [lines.eq_4 c cs hc fun rest h h' => hreturn ⟨h, rest, h'⟩]
    cases lines cs <;> rfl

/-- The first line starts as the text does. -/
lemma head?_of_headD_lines {c : Char} {cs rest : List Char}
    (h : (lines cs).headD [] = c :: rest) : cs.head? = some c := by
  cases cs with
  | nil => cases h
  | cons d cs =>
    by_cases hd : d = '\n'
    · rw [hd] at h
      cases h
    · rcases headD_lines_cons hd cs with hcons | ⟨-, hnil, -⟩
      · rw [hcons] at h
        rw [List.head?_cons, (List.cons.inj h).1]
      · rw [hnil] at h
        cases h

/-- Only an empty text has no lines. -/
lemma lines_eq_nil_iff {cs : List Char} : lines cs = [] ↔ cs = [] := by
  constructor
  · intro h
    fun_cases lines cs with
    | case1 => rfl
    | case2 => cases h
    | case3 => cases h
    | case4 c rest hfeed hreturn hlines =>
      rw [lines.eq_4 c rest hfeed hreturn, hlines] at h
      cases h
    | case5 c rest hfeed hreturn first others hlines =>
      rw [lines.eq_4 c rest hfeed hreturn, hlines] at h
      cases h
  · rintro rfl
    rfl

/-- The end of a text is the end of a longer text. -/
lemma forall_getLast?_of_cons {P : Char → Prop} {c : Char} {cs : List Char}
    (h : ∀ d ∈ (c :: cs).getLast?, P d) : ∀ d ∈ cs.getLast?, P d := by
  intro d hd
  apply h
  rw [Option.mem_def] at hd ⊢
  rw [List.getLast?_cons, hd]
  rfl

/-- The lines of a text that ends with a line stand in front of those of the text behind it. -/
lemma lines_append_of_getLast? {cs : List Char} (h : ∀ c ∈ cs.getLast?, c = '\n')
    (rest : List Char) : lines (cs ++ rest) = lines cs ++ lines rest := by
  fun_induction lines cs with
  | case1 => rfl
  | case2 cs ih =>
    rw [List.cons_append, lines, ih (forall_getLast?_of_cons h), List.cons_append]
  | case3 cs ih =>
    rw [List.cons_append, List.cons_append, lines,
      ih (forall_getLast?_of_cons (forall_getLast?_of_cons h)), List.cons_append]
  | case4 c cs hfeed hreturn hlines ih =>
    rw [lines_eq_nil_iff.1 hlines] at h
    exact absurd (h c rfl) hfeed
  | case5 c cs hfeed hreturn first others hlines ih =>
    -- the character behind `c` belongs to the first text, so it is no line feed after a return
    have hstep := lines.eq_4 c (cs ++ rest) hfeed fun tail hc htail => by
      cases cs with
      | nil => cases hlines
      | cons d ds => exact hreturn ds hc (by rw [(List.cons.inj htail).1])
    rw [List.cons_append, hstep, ih (forall_getLast?_of_cons h), hlines]
    rfl

/-- No line has a line feed. -/
lemma lineFeed_not_mem_of_mem_lines {source line : List Char} (h : line ∈ lines source) :
    '\n' ∉ line := by
  fun_induction lines source generalizing line with
  | case1 => cases h
  | case2 rest ih =>
    rcases List.mem_cons.1 h with rfl | h
    · exact List.not_mem_nil
    · exact ih h
  | case3 rest ih =>
    rcases List.mem_cons.1 h with rfl | h
    · exact List.not_mem_nil
    · exact ih h
  | case4 c rest hfeed hreturn hlines ih =>
    rw [List.mem_singleton.1 h, List.mem_singleton]
    exact Ne.symm hfeed
  | case5 c rest hfeed hreturn first others hlines ih =>
    rw [hlines] at ih
    rcases List.mem_cons.1 h with rfl | h
    · rw [List.mem_cons, not_or]
      exact ⟨Ne.symm hfeed, ih List.mem_cons_self⟩
    · exact ih (List.mem_cons_of_mem _ h)

/-- A text without line feeds is one line, or none if it is empty. -/
lemma lines_of_lineFeed_not_mem {cs : List Char} (h : '\n' ∉ cs) :
    lines cs = if cs = [] then [] else [cs] := by
  induction cs with
  | nil => rfl
  | cons c cs ih =>
    rw [List.mem_cons, not_or] at h
    rw [if_neg (List.cons_ne_nil _ _), lines.eq_4 c cs (Ne.symm h.1), ih h.2]
    · cases cs <;> rfl
    · rintro rest - rfl
      exact h.2 List.mem_cons_self

end CircuitBench.Text
