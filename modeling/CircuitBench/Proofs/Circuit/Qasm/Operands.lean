import CircuitBench.Circuit.Qasm.Reading
import CircuitBench.Circuit.Qasm.Writing
import CircuitBench.Proofs.Circuit.Expression.Chains
import CircuitBench.Proofs.Circuit.WellFormed

/-!
# Written units are resolved

A unit is written as its register's name with its index in square brackets. The reader takes the
same name and index from this text (`readIndexed?_wireText`), also as one of several operands, and
finds the unit among the declared ones (`resolveQubits_of_trim`).
-/

namespace CircuitBench

/-- The registers of one kind are named by distinct identifiers and stay within the limit, so that
each of their units is found by its text. -/
structure Circuit.Resolvable (c : Circuit) (kind : UnitKind) : Prop where
  identifiers : ∀ r ∈ c.registers kind, Qasm.isIdentifier r.name.toList = true
  distinct : ((c.registers kind).map Register.name).Nodup
  units_le : unitCount (c.registers kind) ≤ unitLimit

/-- The units of one kind. -/
def Circuit.units (c : Circuit) (kind : UnitKind) : List Wire :=
  (c.registers kind).flatMap Register.wires

/-- Every unit of a well-formed circuit can be found. -/
lemma Circuit.WellFormed.resolvable {c : Circuit} (h : c.WellFormed) (kind : UnitKind) :
    c.Resolvable kind := by
  have hdistinct := h.distinct
  rw [List.map_append, List.nodup_append] at hdistinct
  cases kind with
  | qubit =>
    exact ⟨fun r hr => h.identifiers r (List.mem_append_left _ hr), hdistinct.1, h.qubits_le⟩
  | bit =>
    exact ⟨fun r hr => h.identifiers r (List.mem_append_right _ hr), hdistinct.2.1, h.bits_le⟩

/-- The registers of declared units are named by identifiers. -/
lemma Circuit.Resolvable.isIdentifier {c : Circuit} {kind : UnitKind} {w : Wire}
    (hc : c.Resolvable kind) (hw : w ∈ c.units kind) :
    Qasm.isIdentifier w.register.toList = true := by
  obtain ⟨r, hr, hname, -⟩ := mem_flatMap_wires.1 hw
  rw [← hname]
  exact hc.identifiers r hr

end CircuitBench

namespace CircuitBench.Qasm

open Expression (isNameStart isNameChar isBlank_of_isNameChar)

/-! ### Identifiers -/

/-- What starts a name can also continue it. -/
lemma isNameChar_of_isNameStart {c : Char} (h : isNameStart c = true) : isNameChar c = true := by
  unfold isNameStart at h
  unfold isNameChar Char.isAlphanum
  rw [Bool.or_eq_true] at h ⊢
  rcases h with h | h
  · exact .inl (by rw [h, Bool.true_or])
  · exact .inr h

/-- The characters of an identifier are those of names. -/
lemma all_of_isIdentifier {name : List Char} (h : isIdentifier name = true) :
    name.all isNameChar = true := by
  cases name with
  | nil => rfl
  | cons c rest =>
    obtain ⟨hc, hrest⟩ := Bool.and_eq_true_iff.1 h
    rw [List.all_cons, isNameChar_of_isNameStart hc, hrest]
    rfl

/-- An identifier in front of a text ends where the text does not go on with it. -/
lemma spanIdentifier?_append {name rest : List Char} (h : isIdentifier name = true)
    (hrest : Text.Stops isNameChar rest) : spanIdentifier? (name ++ rest) = some (name, rest) := by
  cases name with
  | nil => cases h
  | cons c cs =>
    obtain ⟨hc, hcs⟩ := Bool.and_eq_true_iff.1 h
    rw [List.cons_append, spanIdentifier?, if_pos hc, Text.takeWhile_append hcs hrest,
      Text.dropWhile_append hcs hrest]

/-! ### Units -/

/-- The characters of written operands. -/
def isOperandChar (c : Char) : Bool :=
  isNameChar c || c == '[' || c == ']'

/-- No character of an operand is blank. -/
lemma isBlank_of_isOperandChar {c : Char} (h : isOperandChar c = true) :
    Text.isBlank c = false := by
  unfold isOperandChar at h
  rw [Bool.or_eq_true, Bool.or_eq_true, beq_iff_eq, beq_iff_eq] at h
  rcases h with (h | rfl) | rfl
  · exact isBlank_of_isNameChar h
  · decide
  · decide

/-- The digits of a number belong to names. -/
lemma all_natText (n : Nat) : (Number.natText n).all isNameChar = true := by
  have h := Bool.and_eq_true_iff.1 (Number.isDigits_natText n)
  rw [List.all_eq_true] at h ⊢
  intro c hc
  simp [isNameChar, Char.isAlphanum, h.2 c hc]

/-- The characters of a written unit. -/
lemma mem_wireText {w : Wire} (h : isIdentifier w.register.toList = true) {c : Char}
    (hc : c ∈ wireText w) : isOperandChar c = true := by
  unfold wireText at hc
  unfold isOperandChar
  rw [List.mem_append, List.mem_cons, List.mem_append, List.mem_singleton] at hc
  rcases hc with hc | rfl | hc | rfl
  · rw [List.all_eq_true.1 (all_of_isIdentifier h) c hc]
    rfl
  · rfl
  · rw [List.all_eq_true.1 (all_natText w.index) c hc]
    rfl
  · rfl

/-- The digits of a written index. -/
lemma readIndex?_natText (n : Nat) :
    readIndex? ('[' :: (Number.natText n ++ [']'])) = some (Number.natText n) := by
  obtain ⟨hne, hdigits⟩ := Bool.and_eq_true_iff.1 (Number.isDigits_natText n)
  have hstop : Text.Stops Char.isDigit [']'] := Text.stops_cons.2 rfl
  have hblank : Text.Stops Text.isBlank (Number.natText n ++ [']']) := by
    obtain ⟨c, cs, hcs⟩ := List.exists_cons_of_ne_nil (by simpa using hne)
    rw [hcs, List.all_cons, Bool.and_eq_true] at hdigits
    rw [hcs]
    exact Text.stops_cons.2 (Text.isBlank_of_isDigit hdigits.1)
  rw [readIndex?, Text.trimStart_of_stops hblank, Text.takeWhile_append hdigits hstop,
    Text.dropWhile_append hdigits hstop, if_neg (by simpa using hne)]
  rfl

/-- The name and the index of a written unit. -/
lemma readIndexed?_wireText {w : Wire} (h : isIdentifier w.register.toList = true) :
    readIndexed? (wireText w) = some (w.register.toList, some (Number.natText w.index)) := by
  have hspan : spanIdentifier? (w.register.toList ++ '[' :: (Number.natText w.index ++ [']'])) =
      some (w.register.toList, '[' :: (Number.natText w.index ++ [']'])) :=
    spanIdentifier?_append h (Text.stops_cons.2 rfl)
  have htrim : Text.trimStart ('[' :: (Number.natText w.index ++ [']'])) =
      '[' :: (Number.natText w.index ++ [']']) := Text.trimStart_cons_of_not_isBlank (by decide) _
  simp only [readIndexed?, wireText, hspan, Option.bind_eq_bind, Option.bind_some, htrim,
    readIndex?_natText]
  rfl

/-- Written units have no blanks at their ends. -/
lemma isTrimmed_wireText {w : Wire} (h : isIdentifier w.register.toList = true) :
    Text.IsTrimmed (wireText w) :=
  Text.isTrimmed_of_all fun _ hc => isBlank_of_isOperandChar (mem_wireText h hc)

/-- A text that is a written unit up to blanks around it names this unit. -/
lemma resolve_of_trim {c : Circuit} {kind : UnitKind} {w : Wire} {operand : List Char}
    (hc : c.Resolvable kind) (hw : w ∈ c.units kind) (line : Nat)
    (hoperand : Text.trim operand = wireText w) : resolve c line kind operand = .ok w := by
  obtain ⟨r, hr, hname, hindex⟩ := mem_flatMap_wires.1 hw
  have hidentifier := hc.identifiers r hr
  have hfind := findRegister?_eq_some hc.distinct hr
  have hword : w.index < Number.word32 :=
    hindex.trans_le ((size_le_unitCount hr).trans (hc.units_le.trans (by decide)))
  have hread := Number.readNat?_natText hword
  rw [hname] at hidentifier hfind
  unfold resolve
  simp only [hoperand, readIndexed?_wireText hidentifier, String.ofList_toList, hfind, hread,
    hindex, if_true]

/-! ### Lists of qubits -/

/-- A written unit is no blank text. -/
lemma wireText_ne_nil (w : Wire) : wireText w ≠ [] := by
  simp [wireText]

/-- The characters of written units. -/
lemma mem_wiresText {ws : List Wire} (h : ∀ w ∈ ws, isIdentifier w.register.toList = true)
    {c : Char} (hc : c ∈ wiresText ws) : isOperandChar c = true ∨ c = ',' := by
  rcases Text.mem_join hc with hsep | ⟨piece, hpiece, hc⟩
  · exact .inr (List.mem_singleton.1 hsep)
  · obtain ⟨w, hw, rfl⟩ := List.mem_map.1 hpiece
    exact .inl (mem_wireText (h w hw) hc)

/-- Written units have no blanks at their ends. -/
lemma isTrimmed_wiresText {ws : List Wire} (h : ∀ w ∈ ws, isIdentifier w.register.toList = true) :
    Text.IsTrimmed (wiresText ws) := by
  apply Text.isTrimmed_of_all
  intro c hc
  rcases mem_wiresText h hc with hc | rfl
  · exact isBlank_of_isOperandChar hc
  · decide

/-- Several written units are no blank text. -/
lemma wiresText_ne_nil {ws : List Wire} (h : ws ≠ []) : wiresText ws ≠ [] := by
  obtain ⟨w, others, rfl⟩ := List.exists_cons_of_ne_nil h
  obtain ⟨rest, hrest⟩ := Text.exists_join_cons [','] (wireText w) (others.map wireText)
  rw [wiresText, List.map_cons, hrest]
  simp [wireText_ne_nil]

/-- A text that is a list of written qubits up to blanks around it names these qubits. -/
lemma resolveQubits_of_trim {c : Circuit} {ws : List Wire} {operands : List Char}
    (hc : c.Resolvable .qubit) (hne : ws ≠ []) (hws : ∀ w ∈ ws, w ∈ c.qubits) (line : Nat)
    (hoperands : Text.trim operands = wiresText ws) : resolveQubits c line operands = .ok ws := by
  have hidentifiers : ∀ w ∈ ws, isIdentifier w.register.toList = true := fun w hw =>
    hc.isIdentifier (hws w hw)
  have htext : (wiresText ws).isEmpty = false :=
    List.isEmpty_eq_false_iff.2 (wiresText_ne_nil hne)
  have hpieces : Text.splitOnChar ',' (wiresText ws) = ws.map wireText := by
    apply Text.splitOnChar_join (by simpa using hne)
    intro piece hpiece
    obtain ⟨w, hw, rfl⟩ := List.mem_map.1 hpiece
    intro hc
    exact absurd (mem_wireText (hidentifiers w hw) hc) (by decide)
  have hresolve : (ws.map wireText).mapM (resolve c line .qubit) = .ok (ws.map id) := by
    rw [List.mapM_map]
    apply mapM_eq_ok
    intro w hw
    exact resolve_of_trim hc (hws w hw) line (isTrimmed_wireText (hidentifiers w hw)).trim_eq
  unfold resolveQubits
  dsimp only
  rw [hoperands, htext, hpieces, hresolve, List.map_id]
  rfl

/-- No unit is found to be repeated exactly when the units are pairwise distinct and none of them
was seen before. -/
lemma firstRepeated?_eq_none_iff {seen ws : List Wire} :
    firstRepeated? seen ws = none ↔ ws.Nodup ∧ ∀ w ∈ ws, w ∉ seen := by
  induction ws generalizing seen with
  | nil => simp [firstRepeated?]
  | cons w ws ih =>
    rw [firstRepeated?]
    by_cases hseen : w ∈ seen
    · simp [hseen]
    · rw [if_neg (by simpa using hseen), ih, List.nodup_cons]
      constructor
      · rintro ⟨hnodup, hnot⟩
        refine ⟨⟨fun hw => hnot w hw (by simp), hnodup⟩, ?_⟩
        intro v hv
        rcases List.mem_cons.1 hv with rfl | hv
        · exact hseen
        · exact fun hmem => hnot v hv (List.mem_append_left _ hmem)
      · rintro ⟨⟨hw, hnodup⟩, hnot⟩
        refine ⟨hnodup, fun v hv hmem => ?_⟩
        rcases List.mem_append.1 hmem with hmem | hmem
        · exact hnot v (List.mem_cons_of_mem _ hv) hmem
        · rw [List.mem_singleton.1 hmem] at hv
          exact hw hv

end CircuitBench.Qasm
