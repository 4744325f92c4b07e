import Mathlib
import CircuitBench.Dataset.Grammar
import CircuitBench.Proofs.Number.PlainText

/-!
# What the grammars of data set names recognise

A name of the current grammar is put together from digits, an underscore, digits, a dash and a type
(`IsComposed`), and can be taken apart in one way only: the digits end where the separators stand,
and everything behind the dash is the type. A name of the older grammar has a place where the older
form stands; of several places the first one counts (`IsFirstLegacy`), also when the search has met
the beginnings of others before it (`findLegacy?_eq_some_iff`). `extract_recognises` says that each
grammar recognises the identifiers of its form and no other ones.
-/

namespace CircuitBench.DatasetGrammar

open Number (isDigits)

/-- An identifier is made of a number of qubits, a number of gates and a type of one line. -/
structure IsComposed (identifier qubits gates datasetType : String) : Prop where
  identifier_eq : identifier = qubits ++ "_" ++ gates ++ "-" ++ datasetType
  qubits_digits : isDigits qubits.toList = true
  gates_digits : isDigits gates.toList = true
  type_ne_empty : datasetType ≠ ""
  lineFeed_notMem : '\n' ∉ datasetType.toList

/-- The older form stands in an identifier, behind `before`. -/
structure IsLegacyAt (identifier before number qubits after : String) : Prop where
  identifier_eq : identifier
    = before ++ "Voqc_" ++ number ++ "_" ++ qubits ++ "_complete_ECC_set" ++ after
  number_digits : isDigits number.toList = true
  qubits_digits : isDigits qubits.toList = true

/-- The older form stands in an identifier behind `before`, and nowhere further to the left. -/
structure IsFirstLegacy (identifier before number qubits after : String) : Prop where
  isLegacyAt : IsLegacyAt identifier before number qubits after
  length_le : ∀ {before' number' qubits' after' : String},
    IsLegacyAt identifier before' number' qubits' after' → before.length ≤ before'.length

/-! ### Digits and words in front of a text -/

/-- The digits in front of a text go as far as there are digits. -/
lemma spanDigits?_eq_some_iff {cs digits rest : List Char} :
    spanDigits? cs = some (digits, rest) ↔
      cs = digits ++ rest ∧ isDigits digits = true ∧ Text.Stops Char.isDigit rest := by
  rw [spanDigits?]
  constructor
  · intro h
    split_ifs at h with hempty
    obtain ⟨rfl, rfl⟩ := Prod.mk.inj (Option.some.inj h)
    refine ⟨List.takeWhile_append_dropWhile.symm, ?_, Text.stops_dropWhile _ _⟩
    rw [isDigits, List.all_takeWhile, Bool.and_true]
    simpa using hempty
  · rintro ⟨rfl, hdigits, hrest⟩
    have hall := Number.all_of_isDigits hdigits
    rw [Text.takeWhile_append hall hrest, Text.dropWhile_append hall hrest,
      if_neg (by simpa using Number.ne_nil_of_isDigits hdigits)]

/-- A word is dropped from the front of a text that starts with it. -/
lemma dropWord?_eq_some_iff {word cs rest : List Char} :
    dropWord? word cs = some rest ↔ cs = word ++ rest := by
  rw [dropWord?]
  constructor
  · intro h
    split_ifs at h with hprefix
    obtain ⟨tail, rfl⟩ := List.isPrefixOf_iff_prefix.1 hprefix
    simpa [eq_comm] using h
  · rintro rfl
    simp

/-- Digits in front of a separator are read up to it. -/
lemma spanDigits?_separator {digits rest : List Char} {separator : Char}
    (hdigits : isDigits digits = true) (hseparator : separator.isDigit = false) :
    spanDigits? (digits ++ separator :: rest) = some (digits, separator :: rest) :=
  spanDigits?_eq_some_iff.2 ⟨rfl, hdigits, Text.stops_cons.2 hseparator⟩

/-! ### The two forms in front of a text -/

/-- The older form with a text behind it. -/
def legacyForm (number qubits after : List Char) : List Char :=
  "Voqc_".toList ++ (number ++ '_' :: (qubits ++ ("_complete_ECC_set".toList ++ after)))

/-- Qubits and type are read from the texts that are made of them and of gates between them. -/
theorem parseQubitsGatesType?_eq_some_iff {cs qubits datasetType : List Char} :
    parseQubitsGatesType? cs = some (qubits, datasetType) ↔
      ∃ gates, cs = qubits ++ '_' :: (gates ++ '-' :: datasetType) ∧ isDigits qubits = true ∧
        isDigits gates = true ∧ datasetType ≠ [] ∧ '\n' ∉ datasetType := by
  rw [parseQubitsGatesType?]
  constructor
  · intro h
    obtain ⟨⟨qubits', rest⟩, hqubits, h⟩ := Option.bind_eq_some_iff.1 h
    obtain ⟨behind, hword, h⟩ := Option.bind_eq_some_iff.1 h
    obtain ⟨⟨gates, rest'⟩, hgates, h⟩ := Option.bind_eq_some_iff.1 h
    obtain ⟨datasetType', hdash, h⟩ := Option.bind_eq_some_iff.1 h
    split_ifs at h with htype
    cases h
    obtain ⟨rfl, hqubits, -⟩ := spanDigits?_eq_some_iff.1 hqubits
    obtain rfl := dropWord?_eq_some_iff.1 hword
    obtain ⟨rfl, hgates, -⟩ := spanDigits?_eq_some_iff.1 hgates
    obtain rfl := dropWord?_eq_some_iff.1 hdash
    exact ⟨gates, rfl, ‹_›, ‹_›, by simpa using htype⟩
  · rintro ⟨gates, rfl, hqubits, hgates, hne, hline⟩
    have hunderscore : dropWord? ['_'] ('_' :: (gates ++ '-' :: datasetType))
        = some (gates ++ '-' :: datasetType) := dropWord?_eq_some_iff.2 rfl
    have hdash : dropWord? ['-'] ('-' :: datasetType) = some datasetType :=
      dropWord?_eq_some_iff.2 rfl
    simp [spanDigits?_separator hqubits (by decide : ('_').isDigit = false), hunderscore,
      spanDigits?_separator hgates (by decide : ('-').isDigit = false), hdash, hne, hline]

/-- The older form is read from the texts that start with it. -/
theorem parseLegacyHere?_eq_some_iff {cs qubits : List Char} :
    parseLegacyHere? cs = some qubits ↔ ∃ number after, cs = legacyForm number qubits after ∧
      isDigits number = true ∧ isDigits qubits = true := by
  rw [parseLegacyHere?]
  constructor
  · intro h
    obtain ⟨behind, hword, h⟩ := Option.bind_eq_some_iff.1 h
    obtain ⟨⟨number, rest⟩, hnumber, h⟩ := Option.bind_eq_some_iff.1 h
    obtain ⟨behind', hunderscore, h⟩ := Option.bind_eq_some_iff.1 h
    obtain ⟨⟨qubits', rest'⟩, hqubits, h⟩ := Option.bind_eq_some_iff.1 h
    obtain ⟨after, hset, h⟩ := Option.bind_eq_some_iff.1 h
    cases h
    obtain rfl := dropWord?_eq_some_iff.1 hword
    obtain ⟨rfl, hnumber, -⟩ := spanDigits?_eq_some_iff.1 hnumber
    obtain rfl := dropWord?_eq_some_iff.1 hunderscore
    obtain ⟨rfl, hqubits, -⟩ := spanDigits?_eq_some_iff.1 hqubits
    obtain rfl := dropWord?_eq_some_iff.1 hset
    exact ⟨number, after, rfl, ‹_›, ‹_›⟩
  · rintro ⟨number, after, rfl, hnumber, hqubits⟩
    have hword : dropWord? "Voqc_".toList (legacyForm number qubits after)
        = some (number ++ '_' :: (qubits ++ ("_complete_ECC_set".toList ++ after))) :=
      dropWord?_eq_some_iff.2 rfl
    have hunderscore : dropWord? ['_'] ('_' :: (qubits ++ ("_complete_ECC_set".toList ++ after)))
        = some (qubits ++ ("_complete_ECC_set".toList ++ after)) := dropWord?_eq_some_iff.2 rfl
    have hqubits' : spanDigits? (qubits ++ ("_complete_ECC_set".toList ++ after))
        = some (qubits, "_complete_ECC_set".toList ++ after) :=
      spanDigits?_separator hqubits (by decide)
    have hset : dropWord? "_complete_ECC_set".toList ("_complete_ECC_set".toList ++ after)
        = some after := dropWord?_eq_some_iff.2 rfl
    simp only [bind, hword, Option.bind_some, spanDigits?_separator hnumber (by decide :
      ('_').isDigit = false), hunderscore, hqubits', hset, pure]

/-! ### The search for the older form -/

/-- The search finds the older form behind the shortest front part of a text behind which it
stands. -/
theorem findLegacy?_eq_some_iff {cs qubits : List Char} :
    findLegacy? cs = some qubits ↔ ∃ before behind, cs = before ++ behind ∧
      parseLegacyHere? behind = some qubits ∧
        ∀ before' behind', cs = before' ++ behind' → (parseLegacyHere? behind').isSome →
          before.length ≤ before'.length := by
  induction cs with
  | nil =>
    constructor
    · intro h
      cases h
    · rintro ⟨before, behind, hsplit, hparse, -⟩
      obtain ⟨rfl, rfl⟩ := List.append_eq_nil_iff.1 hsplit.symm
      cases hparse
  | cons c cs ih =>
    rw [findLegacy?]
    cases hhere : parseLegacyHere? (c :: cs) with
    | some found =>
      rw [Option.some_or, Option.some_inj]
      constructor
      · rintro rfl
        exact ⟨[], c :: cs, rfl, hhere, fun _ _ _ _ => Nat.zero_le _⟩
      · rintro ⟨before, behind, hsplit, hparse, hfirst⟩
        have hzero : before.length ≤ 0 := hfirst [] (c :: cs) rfl (by rw [hhere]; rfl)
        obtain rfl := List.eq_nil_of_length_eq_zero (Nat.le_zero.1 hzero)
        rw [List.nil_append] at hsplit
        rw [← hsplit, hhere] at hparse
        exact Option.some_inj.1 hparse
    | none =>
      rw [Option.none_or, ih]
      constructor
      · rintro ⟨before, behind, rfl, hparse, hfirst⟩
        refine ⟨c :: before, behind, rfl, hparse, fun before' behind' hsplit hsome => ?_⟩
        cases before' with
        | nil =>
          rw [List.nil_append] at hsplit
          rw [← hsplit, hhere] at hsome
          cases hsome
        | cons d before' =>
          rw [List.cons_append, List.cons.injEq] at hsplit
          exact Nat.succ_le_succ (hfirst before' behind' hsplit.2 hsome)
      · rintro ⟨before, behind, hsplit, hparse, hfirst⟩
        cases before with
        | nil =>
          rw [List.nil_append] at hsplit
          rw [← hsplit, hhere] at hparse
          cases hparse
        | cons d before =>
          rw [List.cons_append, List.cons.injEq] at hsplit
          obtain ⟨rfl, hsplit⟩ := hsplit
          refine ⟨before, behind, hsplit, hparse, fun before' behind' hsplit' hsome => ?_⟩
          exact Nat.le_of_succ_le_succ (hfirst (c :: before') behind' (by rw [hsplit']; rfl) hsome)

/-- The search finds nothing when the older form stands nowhere. -/
lemma findLegacy?_isSome_iff {cs : List Char} : (findLegacy? cs).isSome ↔
    ∃ before behind, cs = before ++ behind ∧ (parseLegacyHere? behind).isSome := by
  induction cs with
  | nil =>
    constructor
    · intro h
      cases h
    · rintro ⟨before, behind, hsplit, hparse⟩
      obtain ⟨rfl, rfl⟩ := List.append_eq_nil_iff.1 hsplit.symm
      cases hparse
  | cons c cs ih =>
    rw [findLegacy?, Option.isSome_or, Bool.or_eq_true, ih]
    constructor
    · rintro (hhere | ⟨before, behind, rfl, hparse⟩)
      · exact ⟨[], c :: cs, rfl, hhere⟩
      · exact ⟨c :: before, behind, rfl, hparse⟩
    · rintro ⟨before, behind, hsplit, hparse⟩
      cases before with
      | nil => exact Or.inl (hsplit ▸ hparse)
      | cons d before =>
        rw [List.cons_append, List.cons.injEq] at hsplit
        exact Or.inr ⟨before, behind, hsplit.2, hparse⟩

/-! ### Identifiers -/

section Identifiers

variable {identifier : String}

/-- A composed identifier is one that qubits and type are read from. -/
lemma exists_isComposed_iff {qubits datasetType : String} :
    (∃ gates, IsComposed identifier qubits gates datasetType) ↔
      parseQubitsGatesType? identifier.toList = some (qubits.toList, datasetType.toList) := by
  rw [parseQubitsGatesType?_eq_some_iff]
  constructor
  · rintro ⟨gates, hidentifier, hqubits, hgates, hne, hline⟩
    refine ⟨gates.toList, ?_, hqubits, hgates, mt String.toList_eq_nil_iff.1 hne, hline⟩
    rw [hidentifier]
    simp
  · rintro ⟨gates, hidentifier, hqubits, hgates, hne, hline⟩
    refine ⟨String.ofList gates, String.toList_inj.1 ?_, hqubits, ?_, ?_, hline⟩
    · rw [hidentifier]
      simp
    · rwa [String.toList_ofList]
    · exact mt String.toList_eq_nil_iff.2 hne

/-- The older form stands in an identifier where it is read behind a part of the text. -/
lemma exists_isLegacyAt_iff {before qubits : String} :
    (∃ number after, IsLegacyAt identifier before number qubits after) ↔
      ∃ behind, identifier.toList = before.toList ++ behind ∧
        parseLegacyHere? behind = some qubits.toList := by
  simp only [parseLegacyHere?_eq_some_iff]
  constructor
  · rintro ⟨number, after, hidentifier, hnumber, hqubits⟩
    refine ⟨_, ?_, number.toList, after.toList, rfl, hnumber, hqubits⟩
    rw [hidentifier]
    simp [legacyForm]
  · rintro ⟨behind, hidentifier, number, after, rfl, hnumber, hqubits⟩
    refine ⟨String.ofList number, String.ofList after, String.toList_inj.1 ?_, ?_, hqubits⟩
    · rw [hidentifier]
      simp [legacyForm]
    · rwa [String.toList_ofList]

/-- The older form stands somewhere in an identifier exactly when the search finds it. -/
lemma exists_legacy_iff : (∃ before number qubits after,
    IsLegacyAt identifier before number qubits after) ↔ (findLegacy? identifier.toList).isSome := by
  rw [findLegacy?_isSome_iff]
  constructor
  · rintro ⟨before, number, qubits, after, h⟩
    obtain ⟨behind, hsplit, hparse⟩ := exists_isLegacyAt_iff.1 ⟨number, after, h⟩
    exact ⟨before.toList, behind, hsplit, by rw [hparse]; rfl⟩
  · rintro ⟨before, behind, hsplit, hparse⟩
    obtain ⟨qubits, hqubits⟩ := Option.isSome_iff_exists.1 hparse
    obtain ⟨number, after, h⟩ :=
      (@exists_isLegacyAt_iff identifier (String.ofList before) (String.ofList qubits)).2
        ⟨behind, by simpa using hsplit, by simpa using hqubits⟩
    exact ⟨_, number, _, after, h⟩

/-- The search finds the qubits of the first place where the older form stands. -/
lemma exists_isFirstLegacy_iff {qubits : String} :
    (∃ before number after, IsFirstLegacy identifier before number qubits after) ↔
      findLegacy? identifier.toList = some qubits.toList := by
  rw [findLegacy?_eq_some_iff]
  constructor
  · rintro ⟨before, number, after, hat, hfirst⟩
    obtain ⟨behind, hsplit, hparse⟩ := exists_isLegacyAt_iff.1 ⟨number, after, hat⟩
    refine ⟨before.toList, behind, hsplit, hparse, fun before' behind' hsplit' hsome => ?_⟩
    obtain ⟨qubits', hqubits'⟩ := Option.isSome_iff_exists.1 hsome
    obtain ⟨number', after', hat'⟩ :=
      (@exists_isLegacyAt_iff identifier (String.ofList before') (String.ofList qubits')).2
        ⟨behind', by simpa using hsplit', by simpa using hqubits'⟩
    simpa [String.length_toList] using hfirst hat'
  · rintro ⟨before, behind, hsplit, hparse, hfirst⟩
    obtain ⟨number, after, hat⟩ :=
      (@exists_isLegacyAt_iff identifier (String.ofList before) qubits).2
        ⟨behind, by simpa using hsplit, hparse⟩
    refine ⟨_, number, after, hat, fun {before' number' qubits' after'} hat' => ?_⟩
    obtain ⟨behind', hsplit', hparse'⟩ := exists_isLegacyAt_iff.1 ⟨number', after', hat'⟩
    simpa [String.length_toList] using hfirst before'.toList behind' hsplit' (by rw [hparse']; rfl)

/-- A composed identifier can be taken apart in one way only. -/
lemma IsComposed.unique {qubits gates datasetType qubits' gates' datasetType' : String}
    (h : IsComposed identifier qubits gates datasetType)
    (h' : IsComposed identifier qubits' gates' datasetType') :
    qubits' = qubits ∧ gates' = gates ∧ datasetType' = datasetType := by
  have hparse := exists_isComposed_iff.1 ⟨gates, h⟩
  have hparse' := exists_isComposed_iff.1 ⟨gates', h'⟩
  rw [hparse, Option.some_inj, Prod.mk.injEq, String.toList_inj, String.toList_inj] at hparse'
  obtain ⟨rfl, rfl⟩ := hparse'
  have hgates := h.identifier_eq.symm.trans h'.identifier_eq
  rw [← String.toList_inj] at hgates
  simp only [String.toList_append, List.append_cancel_left_eq,
    List.append_cancel_right_eq] at hgates
  exact ⟨rfl, (String.toList_inj.1 hgates).symm, rfl⟩

/-! ### What is told of an identifier -/

/-- A name outside the grammar gives a warning that tells the name and the grammar, and no other
name gives one. -/
lemma warning_extract (grammar : DatasetGrammar) (identifier : String) :
    (grammar.extract identifier).warning
      = if grammar.parse? identifier.toList = none then some ⟨identifier, grammar⟩ else none := by
  rw [extract]
  cases grammar.parse? identifier.toList with
  | none => rfl
  | some parts => rfl

/-- There is no warning exactly when the identifier is recognised. -/
lemma warning_eq_none_iff {grammar : DatasetGrammar} :
    (grammar.extract identifier).warning = none ↔ (grammar.parse? identifier.toList).isSome := by
  rw [warning_extract, Option.isSome_iff_ne_none]
  simp

/-- What a recognised identifier tells. -/
lemma extract_of_parse?_eq_some {grammar : DatasetGrammar} {qubits datasetType : String}
    (h : grammar.parse? identifier.toList = some (qubits.toList, datasetType.toList)) :
    grammar.extract identifier = ⟨qubits, datasetType, none⟩ := by
  rw [extract, h]
  simp

/-- An identifier that is warned of stands for both values. -/
lemma extract_of_warning {grammar : DatasetGrammar} {w : GrammarWarning}
    (h : (grammar.extract identifier).warning = some w) :
    grammar.extract identifier = ⟨identifier, identifier, some ⟨identifier, grammar⟩⟩ := by
  rw [warning_extract, Option.ite_none_right_eq_some] at h
  rw [extract, h.1]

/-- Each grammar tells the parts of the identifiers that have its form, and tells any other
identifier back with a warning. -/
structure ExtractsByForm (identifier : String) : Prop where
  /-- The current grammar recognises the composed identifiers. -/
  composed_iff : (qubitsGatesType.extract identifier).warning = none ↔
    ∃ qubits gates datasetType, IsComposed identifier qubits gates datasetType
  /-- It tells their qubits and their type, and there are no others that they could be made of. -/
  composed : ∀ {qubits gates datasetType : String},
    IsComposed identifier qubits gates datasetType →
      qubitsGatesType.extract identifier = ⟨qubits, datasetType, none⟩ ∧
        ∀ {qubits' gates' datasetType' : String},
          IsComposed identifier qubits' gates' datasetType' →
            qubits' = qubits ∧ gates' = gates ∧ datasetType' = datasetType
  /-- The older grammar recognises the identifiers in which the older form stands. -/
  legacy_iff : (legacyVoqc.extract identifier).warning = none ↔
    ∃ before number qubits after, IsLegacyAt identifier before number qubits after
  /-- There is then a first place where it stands. -/
  legacy_exists_first : (legacyVoqc.extract identifier).warning = none →
    ∃ before number qubits after, IsFirstLegacy identifier before number qubits after
  /-- The qubits of this place are told. -/
  legacy_first : ∀ {before number qubits after : String},
    IsFirstLegacy identifier before number qubits after →
      legacyVoqc.extract identifier = ⟨qubits, "eccs", none⟩
  /-- An identifier that is not recognised is told back, and named in the warning with the
  grammar. -/
  fallback : ∀ {grammar : DatasetGrammar} {w : GrammarWarning},
    (grammar.extract identifier).warning = some w →
      (grammar.extract identifier).qubits = identifier ∧
        (grammar.extract identifier).datasetType = identifier ∧ w = ⟨identifier, grammar⟩ ∧
          w.message = "could not extract number of qubits from dataset name '" ++ identifier ++
            "' (" ++ grammar.name ++ " grammar)"

/-- Each grammar recognises the identifiers that have its form and no other ones. -/
theorem extract_recognises (identifier : String) : ExtractsByForm identifier := by
  have hlegacy : (legacyVoqc.extract identifier).warning = none ↔
      (findLegacy? identifier.toList).isSome := by
    rw [warning_eq_none_iff, parse?, Option.isSome_map]
  constructor
  case composed_iff =>
    rw [warning_eq_none_iff, Option.isSome_iff_exists]
    constructor
    · rintro ⟨⟨qubits, datasetType⟩, hparse⟩
      rw [parse?] at hparse
      obtain ⟨gates, h⟩ :=
        (@exists_isComposed_iff identifier (String.ofList qubits) (String.ofList datasetType)).2
          (by simpa using hparse)
      exact ⟨_, gates, _, h⟩
    · rintro ⟨qubits, gates, datasetType, h⟩
      exact ⟨_, exists_isComposed_iff.1 ⟨gates, h⟩⟩
  case composed =>
    intro qubits gates datasetType h
    exact ⟨extract_of_parse?_eq_some (exists_isComposed_iff.1 ⟨gates, h⟩), fun h' => h.unique h'⟩
  case legacy_iff => rw [hlegacy, exists_legacy_iff]
  case legacy_exists_first =>
    intro h
    obtain ⟨qubits, hqubits⟩ := Option.isSome_iff_exists.1 (hlegacy.1 h)
    obtain ⟨before, number, after, hfirst⟩ :=
      (@exists_isFirstLegacy_iff identifier (String.ofList qubits)).2 (by simpa using hqubits)
    exact ⟨before, number, _, after, hfirst⟩
  case legacy_first =>
    intro before number qubits after h
    have hfind := exists_isFirstLegacy_iff.1 ⟨before, number, after, h⟩
    exact extract_of_parse?_eq_some (by rw [parse?, hfind]; rfl)
  case fallback =>
    intro grammar w h
    have hextract := extract_of_warning h
    rw [hextract] at h ⊢
    obtain rfl := Option.some_inj.1 h
    exact ⟨rfl, rfl, rfl, rfl⟩

end Identifiers

/-- The search goes on behind the beginning of a form that breaks off, and stops at the first whole
one. -/
example : legacyVoqc.extract "Voqc_7_Voqc_3_12_complete_ECC_setVoqc_4_6_complete_ECC_set"
    = ⟨"12", "eccs", none⟩ := by
  decide +kernel

end CircuitBench.DatasetGrammar
