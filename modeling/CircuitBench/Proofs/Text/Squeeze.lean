import CircuitBench.Proofs.Text.Pieces

/-!
# Texts up to runs of blanks

Two texts that differ in their runs of blanks only are the same when every run is squeezed to one
blank. Squeezing a text and then cutting it gives the squeezed pieces, whether it is cut where
blanks end (`dropWhile_squeeze`), where a span of visible characters ends (`takeWhile_squeeze`), at
a separator (`splitOnChar_squeeze`), or at its ends (`trim_squeeze`). The proofs are by
`layout_induction`, over visible characters and runs of blanks.
-/

namespace CircuitBench.Text

/-- A text with one blank for every run of blanks. -/
def squeeze : List Char → List Char
  | [] => []
  | c :: cs => if isBlank c then ' ' :: trimStart (squeeze cs) else c :: squeeze cs

/-! ### Runs of blanks -/

/-- A text is empty, or it starts with a visible character, or with a run of blanks. -/
@[elab_as_elim]
lemma layout_induction {motive : List Char → Prop} (nil : motive [])
    (visible : ∀ c cs, isBlank c = false → motive cs → motive (c :: cs))
    (blank : ∀ c cs, isBlank c = true → motive (trimStart cs) → motive (c :: cs))
    (cs : List Char) : motive cs := by
  induction hlength : cs.length using Nat.strong_induction_on generalizing cs with
  | _ n ih =>
    subst hlength
    cases cs with
    | nil => exact nil
    | cons c cs =>
      rcases hc : isBlank c with _ | _
      · exact visible c cs hc (ih cs.length (Nat.lt_succ_self _) cs rfl)
      · exact blank c cs hc (ih _ (Nat.lt_succ_of_le (length_trimStart_le cs)) _ rfl)

/-- The blank of a squeezed run is a blank. -/
lemma isBlank_space : isBlank ' ' = true := by
  decide

/-- Nothing is squeezed in an empty text. -/
@[simp] lemma squeeze_nil : squeeze [] = [] := rfl

/-- Visible characters stay. -/
lemma squeeze_cons_of_visible {c : Char} (hc : isBlank c = false) (cs : List Char) :
    squeeze (c :: cs) = c :: squeeze cs := by
  rw [squeeze, if_neg (by simp [hc])]

/-- Blanks in front are dropped before or after squeezing. -/
lemma trimStart_squeeze (cs : List Char) : trimStart (squeeze cs) = squeeze (trimStart cs) := by
  induction cs with
  | nil => rfl
  | cons c cs ih =>
    rcases hc : isBlank c with _ | _
    · rw [squeeze_cons_of_visible hc, trimStart_cons_of_not_isBlank hc,
        trimStart_cons_of_not_isBlank hc, squeeze_cons_of_visible hc]
    · rw [squeeze, if_pos hc, trimStart_cons_of_isBlank isBlank_space, trimStart_cons_of_isBlank hc,
        trimStart_trimStart, ih]

/-- A run of blanks becomes one blank. -/
lemma squeeze_cons_of_isBlank {c : Char} (hc : isBlank c = true) (cs : List Char) :
    squeeze (c :: cs) = ' ' :: squeeze (trimStart cs) := by
  rw [squeeze, if_pos hc, trimStart_squeeze]

/-- No text is squeezed to nothing. -/
lemma squeeze_eq_nil_iff {cs : List Char} : squeeze cs = [] ↔ cs = [] := by
  cases cs with
  | nil => simp
  | cons c cs =>
    unfold squeeze
    split_ifs <;> simp

/-- A squeezed text is empty when the text is. -/
@[simp] lemma isEmpty_squeeze (cs : List Char) : (squeeze cs).isEmpty = cs.isEmpty := by
  rw [Bool.eq_iff_iff, List.isEmpty_iff, List.isEmpty_iff, squeeze_eq_nil_iff]

/-- Runs are squeezed only once. -/
@[simp] lemma squeeze_squeeze (cs : List Char) : squeeze (squeeze cs) = squeeze cs := by
  induction cs using layout_induction with
  | nil => rfl
  | visible c cs hc ih =>
    rw [squeeze_cons_of_visible hc, squeeze_cons_of_visible hc, ih]
  | blank c cs hc ih =>
    rw [squeeze_cons_of_isBlank hc, squeeze_cons_of_isBlank isBlank_space, trimStart_squeeze,
      trimStart_trimStart, ih]

/-- What stands in front of texts that are squeezed to the same does not matter. -/
lemma squeeze_append_congr {cs ds : List Char} (h : squeeze cs = squeeze ds) (front : List Char) :
    squeeze (front ++ cs) = squeeze (front ++ ds) := by
  induction front with
  | nil => exact h
  | cons c front ih =>
    rw [List.cons_append, List.cons_append, squeeze, squeeze, ih]

/-! ### Joined texts -/

/-- Texts are squeezed one by one when the second does not start with a blank. -/
lemma squeeze_append_of_stops {ds : List Char} (h : Stops isBlank ds) (cs : List Char) :
    squeeze (cs ++ ds) = squeeze cs ++ squeeze ds := by
  induction cs using layout_induction with
  | nil => rfl
  | visible c cs hc ih =>
    rw [List.cons_append, squeeze_cons_of_visible hc, squeeze_cons_of_visible hc, ih,
      List.cons_append]
  | blank c cs hc ih =>
    have htrim : trimStart (cs ++ ds) = trimStart cs ++ ds := by
      unfold trimStart
      rw [List.dropWhile_append]
      split_ifs with hempty
      · rw [List.isEmpty_iff.1 hempty, List.nil_append]
        exact trimStart_of_stops h
      · rfl
    rw [List.cons_append, squeeze_cons_of_isBlank hc, squeeze_cons_of_isBlank hc, htrim, ih,
      List.cons_append]

/-- A text of blanks is squeezed to one. -/
lemma squeeze_of_all {cs : List Char} (hne : cs ≠ []) (h : cs.all isBlank = true) :
    squeeze cs = [' '] := by
  cases cs with
  | nil => exact absurd rfl hne
  | cons c cs =>
    obtain ⟨hc, hcs⟩ := Bool.and_eq_true_iff.1 h
    have htrim : trimStart cs = [] := List.dropWhile_eq_nil_iff.2 (by simpa using hcs)
    rw [squeeze_cons_of_isBlank hc, htrim, squeeze_nil]

/-- Texts are squeezed one by one when the first does not end with a blank. -/
lemma squeeze_append_of_stops_reverse {cs : List Char} (h : Stops isBlank cs.reverse)
    (ds : List Char) : squeeze (cs ++ ds) = squeeze cs ++ squeeze ds := by
  induction cs using layout_induction with
  | nil => rfl
  | visible c cs hc ih =>
    have hcs : Stops isBlank cs.reverse := by
      rcases hreverse : cs.reverse with _ | ⟨d, rest⟩
      · exact stops_nil _
      · rw [List.reverse_cons, hreverse] at h
        exact stops_cons.2 (stops_cons.1 h)
    rw [List.cons_append, squeeze_cons_of_visible hc, squeeze_cons_of_visible hc, ih hcs,
      List.cons_append]
  | blank c cs hc ih =>
    -- a text that ends visibly does not consist of the run in front
    obtain ⟨d, rest, hrest⟩ : ∃ d rest, trimStart cs = d :: rest := by
      apply List.exists_cons_of_ne_nil
      intro hnil
      have hall : ∀ d ∈ c :: cs, isBlank d = true :=
        List.forall_mem_cons.2 ⟨hc, List.dropWhile_eq_nil_iff.1 hnil⟩
      obtain ⟨d, hd⟩ := Option.ne_none_iff_exists'.1
        (mt List.head?_eq_none_iff.1 (mt List.reverse_eq_nil_iff.1 (List.cons_ne_nil c cs)))
      have hblank := hall d (List.mem_reverse.1 (List.mem_of_mem_head? hd))
      rw [h d hd] at hblank
      cases hblank
    have hsplit : cs.takeWhile isBlank ++ trimStart cs = cs := List.takeWhile_append_dropWhile
    have htrim : trimStart (cs ++ ds) = trimStart cs ++ ds := by
      unfold trimStart at hrest ⊢
      rw [List.dropWhile_append, hrest]
      rfl
    have hstops : Stops isBlank (trimStart cs).reverse := by
      rw [← hsplit, ← List.cons_append, List.reverse_append, hrest, List.reverse_cons] at h
      rw [hrest, List.reverse_cons]
      rcases hreverse : rest.reverse with _ | ⟨e, others⟩
      · rw [hreverse] at h
        exact stops_cons.2 (stops_cons.1 h)
      · rw [hreverse] at h
        exact stops_cons.2 (stops_cons.1 h)
    rw [List.cons_append, squeeze_cons_of_isBlank hc, squeeze_cons_of_isBlank hc, htrim, ih hstops,
      List.cons_append]

/-- A text is squeezed from either end. -/
lemma squeeze_reverse (cs : List Char) : squeeze cs.reverse = (squeeze cs).reverse := by
  induction cs using layout_induction with
  | nil => rfl
  | visible c cs hc ih =>
    have hstops : Stops isBlank [c] := stops_cons.2 hc
    rw [List.reverse_cons, squeeze_append_of_stops hstops, ih, squeeze_cons_of_visible hc,
      squeeze_cons_of_visible hc, List.reverse_cons, squeeze_nil]
  | blank c cs hc ih =>
    have hsplit : c :: cs = (c :: cs.takeWhile isBlank) ++ trimStart cs := by
      rw [List.cons_append]
      exact congrArg _ List.takeWhile_append_dropWhile.symm
    have hall : (c :: cs.takeWhile isBlank).reverse.all isBlank = true := by
      rw [List.all_reverse, List.all_cons, hc, List.all_takeWhile]
      rfl
    have hstops : Stops isBlank (trimStart cs).reverse.reverse := by
      rw [List.reverse_reverse]
      exact stops_trimStart cs
    conv_lhs => rw [hsplit, List.reverse_append, squeeze_append_of_stops_reverse hstops,
      squeeze_of_all (by simp) hall, ih]
    rw [squeeze_cons_of_isBlank hc, List.reverse_cons]

/-! ### Cuts -/

/-- Blanks behind are dropped before or after squeezing. -/
lemma trimEnd_squeeze (cs : List Char) : trimEnd (squeeze cs) = squeeze (trimEnd cs) := by
  have hreverse := trimStart_squeeze cs.reverse
  unfold trimStart at hreverse
  unfold trimEnd
  rw [← squeeze_reverse, hreverse, squeeze_reverse]

/-- Blanks at the ends are dropped before or after squeezing. -/
lemma trim_squeeze (cs : List Char) : trim (squeeze cs) = squeeze (trim cs) := by
  rw [trim, trim, trimStart_squeeze, trimEnd_squeeze]

section Visible

variable {p : Char → Bool} (hp : ∀ c, p c = true → isBlank c = false)

include hp

/-- A span of visible characters is not squeezed. -/
lemma takeWhile_squeeze (cs : List Char) : (squeeze cs).takeWhile p = cs.takeWhile p := by
  induction cs using layout_induction with
  | nil => rfl
  | visible c cs hc ih =>
    rw [squeeze_cons_of_visible hc, List.takeWhile_cons, List.takeWhile_cons, ih]
  | blank c cs hc ih =>
    rw [squeeze_cons_of_isBlank hc,
      List.takeWhile_cons_of_neg (by simp [not_of_isBlank hp isBlank_space]),
      List.takeWhile_cons_of_neg (by simp [not_of_isBlank hp hc])]

/-- What stands behind a span of visible characters is squeezed. -/
lemma dropWhile_squeeze (cs : List Char) : (squeeze cs).dropWhile p = squeeze (cs.dropWhile p) := by
  induction cs using layout_induction with
  | nil => rfl
  | visible c cs hc ih =>
    rw [squeeze_cons_of_visible hc, List.dropWhile_cons, List.dropWhile_cons]
    split_ifs
    · exact ih
    · rw [squeeze_cons_of_visible hc]
  | blank c cs hc ih =>
    rw [List.dropWhile_cons_of_neg (by simp [not_of_isBlank hp hc]), squeeze_cons_of_isBlank hc,
      List.dropWhile_cons_of_neg (by simp [not_of_isBlank hp isBlank_space])]

/-- Squeezing takes away no visible character. -/
lemma any_squeeze (cs : List Char) : (squeeze cs).any p = cs.any p := by
  have htrim : ∀ ds : List Char, (trimStart ds).any p = ds.any p := by
    intro ds
    induction ds with
    | nil => rfl
    | cons d ds ih =>
      rcases hd : isBlank d with _ | _
      · rw [trimStart_cons_of_not_isBlank hd]
      · rw [trimStart_cons_of_isBlank hd, ih, List.any_cons, not_of_isBlank hp hd, Bool.false_or]
  induction cs using layout_induction with
  | nil => rfl
  | visible c cs hc ih => rw [squeeze_cons_of_visible hc, List.any_cons, List.any_cons, ih]
  | blank c cs hc ih =>
    rw [squeeze_cons_of_isBlank hc, List.any_cons, List.any_cons, ih, htrim, not_of_isBlank hp hc,
      not_of_isBlank hp isBlank_space]

end Visible

section Blank

variable {p : Char → Bool} (hp : ∀ c, isBlank c = true → p c = true)

include hp

/-- The blanks in front belong to a span of a class that holds them. -/
lemma takeWhile_trimStart (cs : List Char) :
    (trimStart cs).takeWhile p = trimStart (cs.takeWhile p) := by
  induction cs with
  | nil => rfl
  | cons c cs ih =>
    rcases hc : isBlank c with _ | _
    · rw [trimStart_cons_of_not_isBlank hc, List.takeWhile_cons]
      split_ifs
      · rw [trimStart_cons_of_not_isBlank hc]
      · rfl
    · rw [trimStart_cons_of_isBlank hc, List.takeWhile_cons_of_pos (hp _ hc),
        trimStart_cons_of_isBlank hc, ih]

/-- The blanks in front are not left behind a span of a class that holds them. -/
lemma dropWhile_trimStart (cs : List Char) : (trimStart cs).dropWhile p = cs.dropWhile p := by
  induction cs with
  | nil => rfl
  | cons c cs ih =>
    rcases hc : isBlank c with _ | _
    · rw [trimStart_cons_of_not_isBlank hc]
    · rw [trimStart_cons_of_isBlank hc, List.dropWhile_cons_of_pos (hp _ hc), ih]

/-- A span of a class that holds blanks is squeezed. -/
lemma takeWhile_squeeze_of_blank (cs : List Char) :
    (squeeze cs).takeWhile p = squeeze (cs.takeWhile p) := by
  induction cs using layout_induction with
  | nil => rfl
  | visible c cs hc ih =>
    rw [squeeze_cons_of_visible hc, List.takeWhile_cons, List.takeWhile_cons]
    split_ifs
    · rw [squeeze_cons_of_visible hc, ih]
    · rfl
  | blank c cs hc ih =>
    rw [squeeze_cons_of_isBlank hc, List.takeWhile_cons_of_pos (hp _ isBlank_space),
      List.takeWhile_cons_of_pos (hp _ hc), squeeze_cons_of_isBlank hc, ih, takeWhile_trimStart hp]

/-- What stands behind a span of a class that holds blanks is squeezed. -/
lemma dropWhile_squeeze_of_blank (cs : List Char) :
    (squeeze cs).dropWhile p = squeeze (cs.dropWhile p) := by
  induction cs using layout_induction with
  | nil => rfl
  | visible c cs hc ih =>
    rw [squeeze_cons_of_visible hc, List.dropWhile_cons, List.dropWhile_cons]
    split_ifs
    · exact ih
    · rw [squeeze_cons_of_visible hc]
  | blank c cs hc ih =>
    rw [squeeze_cons_of_isBlank hc, List.dropWhile_cons_of_pos (hp _ isBlank_space),
      List.dropWhile_cons_of_pos (hp _ hc), ih, dropWhile_trimStart hp]

end Blank

/-! ### Separators -/

/-- A character that is no separator belongs to the first piece. -/
lemma splitOnChar_cons_of_ne {sep c : Char} (hc : c ≠ sep) {cs first : List Char}
    {others : List (List Char)} (h : splitOnChar sep cs = first :: others) :
    splitOnChar sep (c :: cs) = (c :: first) :: others := by
  rw [splitOnChar, if_neg hc, h]

/-- The blanks in front belong to the first piece. -/
lemma splitOnChar_trimStart {sep : Char} (hsep : isBlank sep = false) {cs first : List Char}
    {others : List (List Char)} (h : splitOnChar sep cs = first :: others) :
    splitOnChar sep (trimStart cs) = trimStart first :: others := by
  induction cs generalizing first others with
  | nil =>
    cases h
    rfl
  | cons c cs ih =>
    rcases hc : isBlank c with _ | _
    · rw [trimStart_cons_of_not_isBlank hc, h]
      by_cases hcsep : c = sep
      · rw [splitOnChar, if_pos hcsep] at h
        cases h
        rfl
      · obtain ⟨piece, pieces, hpieces⟩ := List.exists_cons_of_ne_nil (splitOnChar_ne_nil sep cs)
        rw [splitOnChar_cons_of_ne hcsep hpieces] at h
        cases h
        rw [trimStart_cons_of_not_isBlank hc]
    · have hcsep : c ≠ sep := by
        rintro rfl
        rw [hc] at hsep
        cases hsep
      obtain ⟨piece, pieces, hpieces⟩ := List.exists_cons_of_ne_nil (splitOnChar_ne_nil sep cs)
      rw [splitOnChar_cons_of_ne hcsep hpieces] at h
      cases h
      rw [trimStart_cons_of_isBlank hc, trimStart_cons_of_isBlank hc, ih hpieces]

/-- The pieces of a squeezed text are the squeezed pieces. -/
lemma splitOnChar_squeeze {sep : Char} (hsep : isBlank sep = false) (cs : List Char) :
    splitOnChar sep (squeeze cs) = (splitOnChar sep cs).map squeeze := by
  have hblank : ∀ {c : Char}, isBlank c = true → c ≠ sep := fun hc => ne_of_class hc hsep
  induction cs using layout_induction with
  | nil => rfl
  | visible c cs hc ih =>
    obtain ⟨first, others, hpieces⟩ := List.exists_cons_of_ne_nil (splitOnChar_ne_nil sep cs)
    rw [squeeze_cons_of_visible hc]
    by_cases hcsep : c = sep
    · rw [splitOnChar, splitOnChar, if_pos hcsep, if_pos hcsep, ih, List.map_cons, squeeze_nil]
    · rw [hpieces, List.map_cons] at ih
      rw [splitOnChar_cons_of_ne hcsep ih, splitOnChar_cons_of_ne hcsep hpieces, List.map_cons,
        squeeze_cons_of_visible hc]
  | blank c cs hc ih =>
    obtain ⟨first, others, hpieces⟩ := List.exists_cons_of_ne_nil (splitOnChar_ne_nil sep cs)
    rw [splitOnChar_trimStart hsep hpieces, List.map_cons] at ih
    rw [squeeze_cons_of_isBlank hc, splitOnChar_cons_of_ne (hblank isBlank_space) ih,
      splitOnChar_cons_of_ne (hblank hc) hpieces, List.map_cons, squeeze_cons_of_isBlank hc]

section Separator

variable {sep : List Char} (hsep : ∀ c ∈ sep, isBlank c = false)

include hsep

/-- A visible text in front is not squeezed. -/
lemma squeeze_append_of_visible (cs : List Char) : squeeze (sep ++ cs) = sep ++ squeeze cs := by
  induction sep with
  | nil => rfl
  | cons c sep ih =>
    rw [List.cons_append, squeeze_cons_of_visible (hsep c List.mem_cons_self),
      ih fun d hd => hsep d (List.mem_cons_of_mem _ hd), List.cons_append]

/-- A visible text stands in front of a squeezed text when it stands in front of the text. -/
lemma isPrefixOf_squeeze (cs : List Char) : sep.isPrefixOf (squeeze cs) = sep.isPrefixOf cs := by
  induction sep generalizing cs with
  | nil => rfl
  | cons d sep ih =>
    cases cs with
    | nil => rfl
    | cons c cs =>
      have hd := hsep d List.mem_cons_self
      have hne : ∀ e, isBlank e = true → d ≠ e := fun e he => (ne_of_class he hd).symm
      rcases hc : isBlank c with _ | _
      · rw [squeeze_cons_of_visible hc, List.isPrefixOf_cons_cons, List.isPrefixOf_cons_cons,
          ih fun e he => hsep e (List.mem_cons_of_mem _ he)]
      · rw [squeeze_cons_of_isBlank hc, List.isPrefixOf_cons_cons, List.isPrefixOf_cons_cons,
          beq_eq_false_iff_ne.2 (hne c hc), beq_eq_false_iff_ne.2 (hne ' ' isBlank_space),
          Bool.false_and, Bool.false_and]

variable (hne : sep ≠ [])

include hne

/-- A separator that is visible does not start at a blank. -/
lemma splitAt?_cons_of_isBlank {c : Char} (hc : isBlank c = true) (cs : List Char) :
    splitAt? sep (c :: cs) = (splitAt? sep cs).map fun p => (c :: p.1, p.2) := by
  obtain ⟨d, others, rfl⟩ := List.exists_cons_of_ne_nil hne
  have hdc : d ≠ c := by
    rintro rfl
    rw [hsep d List.mem_cons_self] at hc
    cases hc
  rw [splitAt?, if_neg (by simp [hdc])]

/-- The blanks in front belong to what stands before a separator. -/
lemma splitAt?_trimStart (cs : List Char) :
    splitAt? sep (trimStart cs) = (splitAt? sep cs).map fun p => (trimStart p.1, p.2) := by
  induction cs with
  | nil =>
    rw [trimStart_nil, splitAt?, if_neg (by simpa using hne)]
    rfl
  | cons c cs ih =>
    rcases hc : isBlank c with _ | _
    · rw [trimStart_cons_of_not_isBlank hc, splitAt?]
      split_ifs
      · rfl
      · rcases splitAt? sep cs with _ | p
        · rfl
        · exact congrArg (fun before => some (before, p.2))
            (trimStart_cons_of_not_isBlank hc p.1).symm
    · rw [trimStart_cons_of_isBlank hc, ih, splitAt?_cons_of_isBlank hsep hne hc, Option.map_map]
      rcases splitAt? sep cs with _ | p
      · rfl
      · exact congrArg (fun before => some (before, p.2)) (trimStart_cons_of_isBlank hc p.1).symm

/-- What stands before and after a separator of a squeezed text is squeezed. -/
lemma splitAt?_squeeze (cs : List Char) :
    splitAt? sep (squeeze cs) = (splitAt? sep cs).map fun p => (squeeze p.1, squeeze p.2) := by
  induction cs using layout_induction with
  | nil =>
    rw [squeeze_nil, splitAt?, if_neg (by simpa using hne)]
    rfl
  | visible c cs hc ih =>
    have hprefix := isPrefixOf_squeeze hsep (c :: cs)
    rw [squeeze_cons_of_visible hc] at hprefix ⊢
    rw [splitAt?, splitAt?, hprefix]
    split_ifs with hfront
    · obtain ⟨after, hafter⟩ := List.isPrefixOf_iff_prefix.1 hfront
      have hsqueeze := squeeze_append_of_visible hsep after
      rw [hafter, squeeze_cons_of_visible hc] at hsqueeze
      rw [hsqueeze, ← hafter, List.drop_left, List.drop_left]
      rfl
    · rw [ih]
      rcases splitAt? sep cs with _ | p
      · rfl
      · exact congrArg (fun before => some (before, squeeze p.2))
          (squeeze_cons_of_visible hc p.1).symm
  | blank c cs hc ih =>
    rw [squeeze_cons_of_isBlank hc, splitAt?_cons_of_isBlank hsep hne isBlank_space,
      splitAt?_cons_of_isBlank hsep hne hc, ih, splitAt?_trimStart hsep hne]
    rcases splitAt? sep cs with _ | p
    · rfl
    · exact congrArg (fun before => some (before, squeeze p.2))
        (squeeze_cons_of_isBlank hc p.1).symm

end Separator

end CircuitBench.Text
