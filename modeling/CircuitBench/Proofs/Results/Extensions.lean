import Mathlib
import CircuitBench.Cli.Check
import CircuitBench.Proofs.Results.Loading

/-!
# Which files are result files

The extensions of result files are a list of texts, from the settings or from an argument. A list is
accepted when some entry is not blank, and every entry of it is then compared with the extensions of
files, the blank ones too (`isTabular_iff`). A file without an extension counts as one with the
empty extension, so that an empty entry makes it a result file.

`selectsByExtension` tells of every list whether it is accepted and which files it selects. Of a
folder that cannot be listed it is told as well, whatever its name (`Skipped.TellsUnlisted`).
`trailingComma_reads_notes` is an accepted list for which a file without an extension is read.
-/

namespace CircuitBench

/-- The extension of a path is not empty, and agrees with an entry that is not blank apart from the
case of letters. -/
def HasNamedExtension (extensions : List String) (path : String) : Prop :=
  ∃ extension, Path.extension? path.toList = some extension ∧ extension ≠ [] ∧
    ∃ allowed ∈ extensions, Config.isBlankText allowed = false ∧
      equalIgnoringCase allowed.toList extension = true

/-- The extension of a path, or the empty one if there is none, agrees with a blank entry. -/
def HasBlankExtension (extensions : List String) (path : String) : Prop :=
  ∃ allowed ∈ extensions, Config.isBlankText allowed = true ∧
    equalIgnoringCase allowed.toList ((Path.extension? path.toList).getD []) = true

/-- The path of what is met as a result file. -/
def Visit.resultPath? : Visit → Option String
  | .tabular path => some path
  | .unreadable path _ => some path
  | .ignored _ _ => none

/-- It is met that a folder cannot be listed, under the path of the folder that is visited. -/
def Visit.TellsUnlisted (visit : Visit) (t : Tree) (folder : String) : Prop :=
  (∃ fault, visit = .unreadable folder fault) ∧ ∃ loc, t.entry? loc = some .unlisted

/-- It is told that a folder cannot be listed, under the path of the folder that was visited. -/
def Skipped.TellsUnlisted (s : Skipped) (t : Tree) (folder : String) : Prop :=
  s.path = folder ∧ s.error.isReading = false ∧ ∃ loc, t.entry? loc = some .unlisted

/-- Which lists of extensions are accepted, and which files they select. -/
structure SelectsByExtension (extensions : List String) : Prop where
  /-- Settings whose sizes can be drawn are accepted when some entry is not blank. -/
  settings : ∀ c : Config, c.loader.extensions = extensions →
    Config.isDrawable c.plot.facetWidth = true → Config.isDrawable c.plot.height = true →
      (c.check = .ok () ↔ ∃ allowed ∈ extensions, Config.isBlankText allowed = false)
  /-- So are arguments that are accepted without the list. -/
  arguments : ∀ (a : Arguments) (t : Tree) (cwd : Location), a.extensions = some extensions →
    a.initConfig = false → Arguments.check { a with extensions := none } t cwd = .ok () →
      (a.check t cwd = .ok () ↔ ∃ allowed ∈ extensions, Config.isBlankText allowed = false)
  /-- A result file has a named extension or a blank one. -/
  tabular : ∀ path, isTabular extensions path = true ↔
    HasNamedExtension extensions path ∨ HasBlankExtension extensions path
  /-- It has not both. -/
  apart : ∀ path, HasBlankExtension extensions path → ¬ HasNamedExtension extensions path
  /-- All result files have named extensions just when no entry is blank. -/
  named_iff : (∀ path, isTabular extensions path = true → HasNamedExtension extensions path) ↔
    ∀ allowed ∈ extensions, Config.isBlankText allowed = false
  /-- A path without an extension, or with a dot at its end, is one of a result file when an entry
  is empty. -/
  extensionless : ∀ path, (Path.extension? path.toList).getD [] = [] →
    (isTabular extensions path = true ↔ "" ∈ extensions)
  /-- What is read or told about when a source is loaded is a result file, unless it is told that a
  folder cannot be listed. -/
  loaded : ∀ (t : Tree) (cwd : Location) (resultsFolder : String) (source : Source),
    (∀ file ∈ (load t cwd extensions resultsFolder source).files,
      isTabular extensions file.path = true) ∧
    ∀ s ∈ (load t cwd extensions resultsFolder source).skipped,
      isTabular extensions s.path = true ∨ s.TellsUnlisted t (sourceFolder resultsFolder source)
  /-- If no entry is blank, it has a named extension. -/
  loaded_named : (∀ allowed ∈ extensions, Config.isBlankText allowed = false) →
    ∀ (t : Tree) (cwd : Location) (resultsFolder : String) (source : Source),
      (∀ file ∈ (load t cwd extensions resultsFolder source).files,
        HasNamedExtension extensions file.path) ∧
      ∀ s ∈ (load t cwd extensions resultsFolder source).skipped,
        HasNamedExtension extensions s.path ∨ s.TellsUnlisted t (sourceFolder resultsFolder source)
  /-- A file without an extension is read when an entry is empty. -/
  loaded_extensionless :
    ∀ (t : Tree) (cwd root : Location) (resultsFolder : String) (source : Source),
    t.WellFormed → t.stat cwd (sourceFolder resultsFolder source) = .ok (root, .folder) →
      ∀ name ∈ t.names root,
        t.isFileEntry cwd root (sourceFolder resultsFolder source) name = true →
        (Path.splitName name.toList).2 = none →
          ((∃ reading, (entryPath (sourceFolder resultsFolder source) name, reading) ∈
            (load t cwd extensions resultsFolder source).readings) ↔ "" ∈ extensions)

/-! ### Texts apart from the case of letters -/

/-- The case of a letter makes no blank. -/
lemma isBlank_toLower (c : Char) : Text.isBlank c.toLower = Text.isBlank c := by
  by_cases hc : c.isUpper
  · have hlower : c.toLower.isAlphanum = true := by
      simp [Char.isAlphanum, Char.isAlpha, hc]
    have hupper : c.isAlphanum = true := by simp [Char.isAlphanum, Char.isAlpha, hc]
    rw [Text.isBlank_of_isAlphanum hlower, Text.isBlank_of_isAlphanum hupper]
  · rw [Char.toLower_eq_of_not_isUpper hc]

/-- Of two texts that agree apart from the case of letters both are blank or neither. -/
lemma all_isBlank_of_equalIgnoringCase {a b : List Char} (h : equalIgnoringCase a b = true) :
    a.all Text.isBlank = b.all Text.isBlank := by
  have hlower : ∀ cs : List Char, (cs.map Char.toLower).all Text.isBlank = cs.all Text.isBlank := by
    intro cs
    rw [List.all_map]
    exact congrArg cs.all (funext isBlank_toLower)
  rw [← hlower a, ← hlower b, beq_iff_eq.1 h]

/-- Only the empty text agrees with the empty text. -/
lemma equalIgnoringCase_nil {a : List Char} : equalIgnoringCase a [] = true ↔ a = [] := by
  rw [equalIgnoringCase, beq_iff_eq, List.map_nil, List.map_eq_nil_iff]

/-- A text agrees with itself. -/
lemma equalIgnoringCase_self (a : List Char) : equalIgnoringCase a a = true :=
  beq_self_eq_true _

/-! ### Named and blank extensions -/

section Selection

variable {extensions : List String} {path : String}

/-- A result file has a named extension or a blank one. -/
lemma isTabular_iff : isTabular extensions path = true ↔
    HasNamedExtension extensions path ∨ HasBlankExtension extensions path := by
  rw [isTabular, List.any_eq_true]
  constructor
  · rintro ⟨allowed, hmem, hequal⟩
    cases hblank : Config.isBlankText allowed with
    | true => exact Or.inr ⟨allowed, hmem, hblank, hequal⟩
    | false =>
      -- an entry that is not blank is not empty, so neither is the extension
      have hvisible : ((Path.extension? path.toList).getD []).all Text.isBlank = false :=
        (all_isBlank_of_equalIgnoringCase hequal).symm.trans hblank
      cases hextension : Path.extension? path.toList with
      | none =>
        rw [hextension] at hvisible
        cases hvisible
      | some extension =>
        rw [hextension] at hvisible hequal
        refine Or.inl ⟨extension, hextension, ?_, allowed, hmem, hblank, hequal⟩
        rintro rfl
        cases hvisible
  · rintro (⟨extension, hextension, -, allowed, hmem, -, hequal⟩ | ⟨allowed, hmem, -, hequal⟩)
    · refine ⟨allowed, hmem, ?_⟩
      rw [hextension]
      exact hequal
    · exact ⟨allowed, hmem, hequal⟩

/-- A named extension is no blank one. -/
lemma not_hasNamedExtension_of_hasBlankExtension (h : HasBlankExtension extensions path) :
    ¬ HasNamedExtension extensions path := by
  obtain ⟨allowed, -, hblank, hequal⟩ := h
  rintro ⟨extension, hextension, -, other, -, hvisible, hequal'⟩
  rw [hextension] at hequal
  have hall := (all_isBlank_of_equalIgnoringCase hequal).symm.trans hblank
  have hall' := (all_isBlank_of_equalIgnoringCase hequal').symm.trans hvisible
  exact Bool.false_ne_true (hall'.symm.trans hall)

/-- The extension of a name of one letter, a dot, and a text without dots and slashes. -/
lemma extension?_dotted {extension : List Char} (hslash : '/' ∉ extension)
    (hdot : '.' ∉ extension) :
    Path.extension? ('a' :: '.' :: extension) = some extension := by
  have hpieces : Path.pieces ('a' :: '.' :: extension) = ['a' :: '.' :: extension] :=
    Text.splitOnChar_of_not_mem (by simp [hslash])
  have hname : Path.fileName? ('a' :: '.' :: extension) = some ('a' :: '.' :: extension) := by
    simp [Path.fileName?, Path.names, hpieces]
  have hreverse : ('a' :: '.' :: extension).reverse = extension.reverse ++ ['.', 'a'] := by simp
  have hstop : ∀ c ∈ extension.reverse, (c != '.') = true := by
    intro c hc
    exact bne_iff_ne.2 (ne_of_mem_of_not_mem (List.mem_reverse.1 hc) hdot)
  rw [Path.extension?, hname, Option.bind_some, Path.splitName, hreverse,
    List.dropWhile_append_of_pos hstop, List.takeWhile_append_of_pos hstop]
  simp

/-- A blank entry makes a result file of some path whose extension is not named. -/
lemma exists_hasBlankExtension {allowed : String} (hmem : allowed ∈ extensions)
    (hblank : Config.isBlankText allowed = true) :
    ∃ path, isTabular extensions path = true ∧ ¬ HasNamedExtension extensions path := by
  -- a blank is neither a slash nor a dot, so a name can have the entry behind its dot
  have hvisible : ∀ c ∈ allowed.toList, c ≠ '/' ∧ c ≠ '.' := by
    intro c hc
    have hcblank := List.all_eq_true.1 hblank c hc
    exact ⟨Text.ne_of_class hcblank (by decide), Text.ne_of_class hcblank (by decide)⟩
  have hextension : Path.extension? (String.ofList ('a' :: '.' :: allowed.toList)).toList
      = some allowed.toList := by
    rw [String.toList_ofList]
    exact extension?_dotted (fun h => (hvisible _ h).1 rfl) fun h => (hvisible _ h).2 rfl
  have hpath : HasBlankExtension extensions (String.ofList ('a' :: '.' :: allowed.toList)) := by
    refine ⟨allowed, hmem, hblank, ?_⟩
    rw [hextension]
    exact equalIgnoringCase_self _
  exact ⟨_, isTabular_iff.2 (Or.inr hpath), not_hasNamedExtension_of_hasBlankExtension hpath⟩

/-- If no entry is blank, the extension of a result file is named. -/
lemma hasNamedExtension_of_isTabular
    (hvisible : ∀ allowed ∈ extensions, Config.isBlankText allowed = false)
    (h : isTabular extensions path = true) : HasNamedExtension extensions path := by
  refine (isTabular_iff.1 h).resolve_right ?_
  rintro ⟨allowed, hmem, hblank, -⟩
  exact Bool.false_ne_true ((hvisible allowed hmem).symm.trans hblank)

/-- Only an empty entry selects paths without an extension. -/
lemma isTabular_of_extensionless (h : (Path.extension? path.toList).getD [] = []) :
    isTabular extensions path = true ↔ "" ∈ extensions := by
  rw [isTabular, List.any_eq_true]
  simp only [h, equalIgnoringCase_nil, String.toList_eq_nil_iff, exists_eq_right]

/-- Some entry is not blank when it is not the case that all are. -/
lemma all_isBlankText_eq_false : extensions.all Config.isBlankText = false ↔
    ∃ allowed ∈ extensions, Config.isBlankText allowed = false := by
  simp only [List.all_eq_false, Bool.not_eq_true]

end Selection

/-! ### Accepted lists -/

/-- Settings whose sizes can be drawn are accepted when some extension is not blank. -/
lemma check_settings_iff (c : Config) (hwidth : Config.isDrawable c.plot.facetWidth = true)
    (hheight : Config.isDrawable c.plot.height = true) :
    c.check = .ok () ↔ ∃ allowed ∈ c.loader.extensions, Config.isBlankText allowed = false := by
  rw [← all_isBlankText_eq_false, Config.check, hwidth, hheight]
  cases c.loader.extensions.all Config.isBlankText <;> simp

/-- Arguments are accepted when they are without their extensions and some of these is not blank. -/
lemma check_arguments_iff {a : Arguments} {t : Tree} {cwd : Location} {extensions : List String}
    (hextensions : a.extensions = some extensions) (hinit : a.initConfig = false)
    (hothers : Arguments.check { a with extensions := none } t cwd = .ok ()) :
    a.check t cwd = .ok () ↔ ∃ allowed ∈ extensions, Config.isBlankText allowed = false := by
  have hmodes : (a.verbose && a.quiet) = false := by
    refine Bool.eq_false_iff.2 fun hboth => ?_
    simp only [Arguments.check, hinit, hboth, Bool.false_eq_true, if_false, if_true] at hothers
    cases hothers
  simp only [Arguments.check, hinit, hmodes, Bool.false_eq_true, if_false] at hothers ⊢
  obtain ⟨_, hfolder, hothers⟩ := of_bind_eq_ok hothers
  obtain ⟨_, houtput, hothers⟩ := of_bind_eq_ok hothers
  obtain ⟨_, hexport, -⟩ := of_bind_eq_ok hothers
  rw [hfolder, houtput, hexport, hextensions, ← all_isBlankText_eq_false]
  dsimp only [bind, Except.bind, Arguments.refuseIf]
  split_ifs with hall
  · simp [hall]
  · simp [hall]

/-! ### Loading -/

section Load

variable {t : Tree} {cwd root : Location} {extensions : List String} {resultsFolder : String}
  {source : Source}

/-- A file that is met as a result file is one by its path. -/
lemma isTabular_of_mem_visitFile {path place : String} {visit : Visit}
    (h : visit ∈ visitFile extensions place) (hpath : visit.resultPath? = some path) :
    isTabular extensions path = true := by
  rw [visitFile] at h
  split at h
  · obtain rfl := List.mem_singleton.1 h
    cases hpath
    assumption
  · cases h

/-- So is an entry that cannot be visited and is met as a result file. -/
lemma isTabular_of_mem_visitUnreadable {path place : String} {fault : VisitFault} {visit : Visit}
    (h : visit ∈ visitUnreadable extensions place fault) (hpath : visit.resultPath? = some path) :
    isTabular extensions path = true := by
  rw [visitUnreadable] at h
  split at h
  · obtain rfl := List.mem_singleton.1 h
    cases hpath
    assumption
  · obtain rfl := List.mem_singleton.1 h
    cases hpath

/-- What is met as a result file at an entry is one by its path, unless it tells that a folder
cannot be listed. -/
lemma isTabular_of_mem_visitEntry {folder name path : String} {visit : Visit}
    (h : visit ∈ visitEntry t cwd root extensions folder name)
    (hpath : visit.resultPath? = some path) :
    isTabular extensions path = true ∨ visit.TellsUnlisted t folder := by
  cases hfile : t.isFileEntry cwd root folder name with
  | true =>
    rw [visitEntry_of_isFileEntry hfile] at h
    exact Or.inl (isTabular_of_mem_visitFile h hpath)
  | false =>
    obtain hvisit | ⟨fault, hvisit⟩ | ⟨⟨-, loc, hstat⟩, hvisit⟩ :=
      visitEntry_of_not_isFileEntry hfile
    · rw [hvisit] at h
      cases h
    · rw [hvisit] at h
      exact Or.inl (isTabular_of_mem_visitUnreadable h hpath)
    · rw [hvisit] at h
      exact Or.inr ⟨⟨_, List.mem_singleton.1 h⟩, loc, Tree.entry?_of_stat hstat⟩

/-- So it is in the folder of a source. -/
lemma isTabular_of_mem_visits {path : String} {visit : Visit}
    (h : visit ∈ (load t cwd extensions resultsFolder source).visits)
    (hpath : visit.resultPath? = some path) :
    isTabular extensions path = true ∨
      visit.TellsUnlisted t (sourceFolder resultsFolder source) := by
  rw [load] at h
  split at h
  · rename_i hpresent
    rw [Tree.isFolder] at hpresent
    dsimp only at h
    rw [visitFolder] at h
    split at h
    · rename_i cause hstat
      rw [hstat] at hpresent
      cases hpresent
    · obtain ⟨name, -, hvisit⟩ := List.mem_flatMap.1 h
      exact isTabular_of_mem_visitEntry hvisit hpath
    · rename_i loc hstat
      exact Or.inr ⟨⟨_, List.mem_singleton.1 h⟩, loc, Tree.entry?_of_stat hstat⟩
    · cases h
  · cases h

/-- What is read was met as a result file. -/
lemma mem_visits_of_mem_readings {path : String} {reading : Except LoadError ResultFile}
    (h : (path, reading) ∈ (load t cwd extensions resultsFolder source).readings) :
    .tabular path ∈ (load t cwd extensions resultsFolder source).visits := by
  rw [load] at h ⊢
  split at h
  · rename_i hpresent
    rw [if_pos hpresent]
    obtain ⟨path', hpath, heq⟩ := List.mem_map.1 h
    obtain ⟨rfl, -⟩ := Prod.mk.inj heq
    obtain ⟨visit, hvisit, htabular⟩ := List.mem_filterMap.1 hpath
    cases visit with
    | tabular path =>
      cases htabular
      exact hvisit
    | unreadable path fault => cases htabular
    | ignored path fault => cases htabular
  · cases h

/-- What is told to be unreadable was met as such. -/
lemma exists_of_mem_unreadablePaths {visits : List Visit} {s : Skipped}
    (h : s ∈ unreadablePaths visits) :
    ∃ fault, .unreadable s.path fault ∈ visits ∧ s.error = .badEntry s.path fault := by
  obtain ⟨visit, hvisit, hs⟩ := List.mem_filterMap.1 h
  cases visit with
  | tabular path => cases hs
  | unreadable path fault =>
    cases hs
    exact ⟨fault, hvisit, rfl⟩
  | ignored path fault => cases hs

/-- Only result files are read. -/
lemma isTabular_of_mem_readings {path : String} {reading : Except LoadError ResultFile}
    (h : (path, reading) ∈ (load t cwd extensions resultsFolder source).readings) :
    isTabular extensions path = true := by
  obtain htabular | ⟨⟨fault, hvisit⟩, -⟩ :=
    isTabular_of_mem_visits (mem_visits_of_mem_readings h) rfl
  · exact htabular
  · cases hvisit

/-- The files of an outcome are result files. -/
lemma isTabular_of_mem_files {file : ResultFile}
    (h : file ∈ (load t cwd extensions resultsFolder source).files) :
    isTabular extensions file.path = true := by
  obtain ⟨path, hmem⟩ := LoadOutcome.mem_files.1 h
  rw [(isLoaded_of_readResultFile (readResultFile_of_mem_readings hmem)).path_eq]
  exact isTabular_of_mem_readings hmem

/-- What an outcome tells about is a result file by its path, or a folder that cannot be listed. -/
lemma isTabular_of_mem_skipped {s : Skipped}
    (h : s ∈ (load t cwd extensions resultsFolder source).skipped) :
    isTabular extensions s.path = true ∨ s.TellsUnlisted t (sourceFolder resultsFolder source) := by
  obtain h | h := List.mem_append.1 h
  · obtain ⟨fault, hvisit, herror⟩ := exists_of_mem_unreadablePaths h
    obtain htabular | ⟨⟨fault', heq⟩, hunlisted⟩ := isTabular_of_mem_visits hvisit rfl
    · exact Or.inl htabular
    · refine Or.inr ⟨(Visit.unreadable.inj heq).1, ?_, hunlisted⟩
      rw [herror]
      rfl
  · exact Or.inl (isTabular_of_mem_readings (LoadOutcome.mem_failures.1 h))

/-- A file whose name has no extension is read when an entry is empty. -/
lemma exists_reading_extensionless_iff (ht : t.WellFormed)
    (hroot : t.stat cwd (sourceFolder resultsFolder source) = .ok (root, .folder)) {name : String}
    (hname : name ∈ t.names root)
    (hfile : t.isFileEntry cwd root (sourceFolder resultsFolder source) name = true)
    (hextension : (Path.splitName name.toList).2 = none) :
    (∃ reading, (entryPath (sourceFolder resultsFolder source) name, reading) ∈
      (load t cwd extensions resultsFolder source).readings) ↔ "" ∈ extensions := by
  have hfolder := endsInName_sourceFolder resultsFolder source
  have hisName := Tree.isName_of_mem_names ht hname
  have hnone :
      Path.extension? (entryPath (sourceFolder resultsFolder source) name).toList = none := by
    rw [entryPath, String.toList_ofList, Path.extension?, Path.fileName?_join hfolder hisName,
      Option.bind_some, hextension]
  refine Iff.trans ?_ (isTabular_of_extensionless (by rw [hnone, Option.getD_none]))
  constructor
  · rintro ⟨reading, hmem⟩
    exact isTabular_of_mem_readings hmem
  · intro htabular
    rw [isTabular_entryPath hfolder hisName] at htabular
    refine ⟨_, (mem_readings_load ht hroot).2 ⟨name, List.mem_filter.2 ⟨hname, ?_⟩, rfl, rfl⟩⟩
    rw [hfile, htabular]
    rfl

end Load

/-- Every list of extensions selects the files with named extensions, and those with blank ones if
it has blank entries. -/
theorem selectsByExtension (extensions : List String) : SelectsByExtension extensions where
  settings c hextensions hwidth hheight := hextensions ▸ check_settings_iff c hwidth hheight
  arguments a t cwd hextensions hinit hothers := check_arguments_iff hextensions hinit hothers
  tabular _ := isTabular_iff
  apart _ := not_hasNamedExtension_of_hasBlankExtension
  named_iff := by
    refine ⟨fun hnamed allowed hmem => ?_,
      fun hvisible _ => hasNamedExtension_of_isTabular hvisible⟩
    by_contra hblank
    obtain ⟨path, htabular, hnot⟩ :=
      exists_hasBlankExtension hmem (Bool.eq_true_of_not_eq_false hblank)
    exact hnot (hnamed path htabular)
  extensionless _ := isTabular_of_extensionless
  loaded _ _ _ _ := ⟨fun _ => isTabular_of_mem_files, fun _ => isTabular_of_mem_skipped⟩
  loaded_named hvisible _ _ _ _ :=
    ⟨fun _ hfile => hasNamedExtension_of_isTabular hvisible (isTabular_of_mem_files hfile),
      fun _ hs => (isTabular_of_mem_skipped hs).imp_left (hasNamedExtension_of_isTabular hvisible)⟩
  loaded_extensionless _ _ _ _ _ ht hroot _ := exists_reading_extensionless_iff ht hroot

/-- A folder with notes beside the results. -/
def notesTree : Tree := ⟨[
  (["results"], .folder),
  (["results", "quartz"], .folder),
  (["results", "quartz", "10_5-eccs.csv"], .file (Utf8.encode "size,duration\n200,0.5\n".toList)),
  (["results", "quartz", "notes"], .file (Utf8.encode "size,duration\n400,1.5\n".toList))]⟩

/-- A comma at the end of a list of extensions makes an empty entry. The arguments and the settings
are accepted, and the notes are read as results, although their path has no extension. -/
theorem trailingComma_reads_notes :
    (Arguments.read ["--extensions", "csv,"] = .ok { extensions := some ["csv", ""] } ∧
      Arguments.check { extensions := some ["csv", ""] } notesTree [] = .ok () ∧
      (Config.merge {} { extensions := some ["csv", ""] }).check = .ok () ∧
      (Config.merge {} { extensions := some ["csv", ""] }).loader.extensions = ["csv", ""]) ∧
    (isTabular ["csv", ""] "results/quartz/notes" = true ∧
      Path.extension? "results/quartz/notes".toList = none ∧
      ¬ HasNamedExtension ["csv", ""] "results/quartz/notes") ∧
    (load notesTree [] ["csv", ""] "results" .quartz).files.map ResultFile.path
      = ["results/quartz/10_5-eccs.csv", "results/quartz/notes"] := by
  have hnone : Path.extension? "results/quartz/notes".toList = none := by decide +kernel
  have hwell : notesTree.WellFormed := ⟨by decide +kernel, by decide +kernel⟩
  have hroot : notesTree.stat [] (sourceFolder "results" .quartz)
      = .ok (["results", "quartz"], .folder) := by decide +kernel
  have hnames : notesTree.names ["results", "quartz"] = ["10_5-eccs.csv", "notes"] := by
    rw [Tree.names, List.mergeSort_of_pairwise (by decide +kernel)]
    decide +kernel
  refine ⟨by decide +kernel, ⟨by decide +kernel, hnone, ?_⟩, ?_⟩
  · rintro ⟨extension, hextension, -⟩
    rw [hnone] at hextension
    cases hextension
  · rw [load_eq hwell hroot, LoadOutcome.files, Tree.resultNames, hnames]
    decide +kernel

end CircuitBench
