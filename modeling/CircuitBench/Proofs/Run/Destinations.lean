import CircuitBench.Cli.Check
import CircuitBench.Proofs.Chart.Rendering
import CircuitBench.Proofs.Outcomes
import CircuitBench.Results.Aggregate

/-!
# Where figures go

The file of a figure is named by an argument, by the general settings, or by the settings about
figures, which name files below the results folder. Arguments and settings are both checked before a
run. The check of arguments looks at the image type of the file that an argument names; the check of
settings looks at no file. So a run never fails on an image type because of its arguments, but it
does because of its settings, and then the first of two figures may be written already.

`imageTypeFaults_of_check` says so of all settings, with arguments that pass their check, and of
every library that draws. `pdfConfig_stopsHalfway` has settings that pass their check, of whose two
figures one is written and the other refused.
-/

namespace CircuitBench

/-- The files that the figures of a layout go to. -/
def Layout.destinations (layout : Layout) (targets : Targets) : List String :=
  match layout with
  | .comparison => [targets.eccsFile, targets.randomFile]
  | .single => [targets.outputFile]

namespace Config

/-- The files that the figures of a run go to. -/
def destinations (c : Config) : List String :=
  c.plot.layout.destinations c.targets

/-- The rendering of a table by a library under some settings. -/
def rendering (c : Config) (library : DrawingLibrary) (t : Tree) (cwd : Location)
    (table : NormalizedTable) : Rendering :=
  renderLayoutWith library t cwd table c.plot.layout c.targets c.figureSize

/-- Settings with other files for the figures. -/
def withFiles (c : Config) (outputFile eccsFile randomFile : String) : Config :=
  { c with
    general := { c.general with outputFile }
    plot := { c.plot with eccsFile, randomFile } }

end Config

/-- A file of a figure that the settings name, and no argument: that of the single figure when no
argument names one, and those of both compared figures. -/
inductive SettingsName (base : Config) (a : Arguments) : String → Prop
  | output (hlayout : (base.merge a).plot.layout = .single) (hargument : a.outputFile = none) :
    SettingsName base a base.general.outputFile
  | eccs (hlayout : (base.merge a).plot.layout = .comparison) :
    SettingsName base a (base.merge a).eccsOutput
  | random (hlayout : (base.merge a).plot.layout = .comparison) :
    SettingsName base a (base.merge a).randomOutput

/-- When rendering ends at a file without image type, for settings `c` in which the arguments `a`
override the settings `base`. -/
structure ImageTypeFaults (base : Config) (a : Arguments) (c : Config) : Prop where
  /-- A plan sends its figures to the files of the layout. -/
  planned : ∀ table, (planFigures table c.plot.layout c.targets).map Prod.snd = c.destinations
  /-- A file without image type is named by the settings, unless nothing is drawn at all. -/
  named : a.initConfig = false → ∀ path ∈ c.destinations, ImageFormat.ofPath? path = none →
    SettingsName base a path
  /-- The check of settings says the same whatever files they name. -/
  unchecked : ∀ outputFile eccsFile randomFile,
    ((base.withFiles outputFile eccsFile randomFile).merge a).check = c.check
  /-- If all files have an image type, no table is refused for one, whatever library draws. -/
  accepted : (∀ path ∈ c.destinations, ImageFormat.ofPath? path ≠ none) →
    ∀ library t cwd table path,
      (c.rendering library t cwd table).error ≠ some (.unsupportedFormat path)
  /-- For each file without image type, the table of some results is refused, whatever library
  draws. -/
  refused : ∀ path ∈ c.destinations, ImageFormat.ofPath? path = none → ∃ sets, ∀ library t cwd,
    (c.rendering library t cwd (normalize (aggregate sets) c.schemaOptions).table).error =
      some (.unsupportedFormat path)
  /-- Some files are written and then another is refused exactly when the figure of equivalence
  classes has points and the library renders it, in either format, and that of random circuits has
  points and a file without image type. -/
  halfway_iff : ∀ library t cwd table path written, written ≠ [] →
    ((c.rendering library t cwd table).error = some (.unsupportedFormat path) ∧
        (c.rendering library t cwd table).written = written ↔
      (c.plot.layout = .comparison ∧ path = c.randomOutput ∧ written = [c.eccsOutput]) ∧
      ((eccsComparison table).isEmpty = false ∧
        library.Renders t cwd (eccsComparison table) c.eccsOutput c.figureSize) ∧
      (randomScaling table).isEmpty = false ∧ ImageFormat.ofPath? path = none)

/-! ### Files and their names -/

/-- A plan sends its figures to the files of the layout. -/
lemma map_snd_planFigures (table : NormalizedTable) (layout : Layout) (targets : Targets) :
    (planFigures table layout targets).map Prod.snd = layout.destinations targets := by
  cases layout <;> rfl

/-- An argument that is accepted does not fail the test. -/
lemma Arguments.of_refuseIf_eq_ok {α : Type} {v : α} {test : α → Bool} {fault : α → ArgumentFault}
    (h : refuseIf (some v) test fault = .ok ()) : test v = false := by
  unfold refuseIf at h
  dsimp only at h
  split at h
  next => cases h
  next htest => simpa using htest

/-- A file that an argument names passes the check only with an image type, unless nothing is drawn
at all. -/
lemma Arguments.ofPath?_ne_none_of_check {a : Arguments} {t : Tree} {cwd : Location} {path : String}
    (h : a.check t cwd = .ok ()) (hinit : a.initConfig = false) (hpath : a.outputFile = some path) :
    ImageFormat.ofPath? path ≠ none := by
  unfold check at h
  rw [hinit, if_neg (by decide)] at h
  split at h
  next => cases h
  next =>
    obtain ⟨⟨⟩, -, h⟩ := of_bind_eq_ok h
    obtain ⟨⟨⟩, houtput, -⟩ := of_bind_eq_ok h
    rw [hpath] at houtput
    exact Option.isSome_iff_ne_none.1 (by simpa using of_refuseIf_eq_ok houtput)

/-- A file without image type is named by the settings. -/
lemma settingsName_of_check {base : Config} {a : Arguments} {t : Tree} {cwd : Location}
    (h : a.check t cwd = .ok ()) (hinit : a.initConfig = false) {path : String}
    (hpath : path ∈ (base.merge a).destinations) (hformat : ImageFormat.ofPath? path = none) :
    SettingsName base a path := by
  unfold Config.destinations Layout.destinations at hpath
  cases hlayout : (base.merge a).plot.layout with
  | comparison =>
    rw [hlayout] at hpath
    rcases List.mem_pair.1 hpath with rfl | rfl
    · exact .eccs hlayout
    · exact .random hlayout
  | single =>
    rw [hlayout] at hpath
    obtain rfl := List.mem_singleton.1 hpath
    cases hargument : a.outputFile with
    | some file =>
      have hfile : (base.merge a).targets.outputFile = file := by
        simp [Config.targets, Config.merge, hargument]
      rw [hfile] at hformat
      exact absurd hformat (a.ofPath?_ne_none_of_check h hinit hargument)
    | none =>
      have hfile : (base.merge a).targets.outputFile = base.general.outputFile := by
        simp [Config.targets, Config.merge, hargument]
      rw [hfile]
      exact .output hlayout hargument

/-! ### Results that make a figure fail -/

/-- One result of a data set of a type. The name of the data set is no identifier, so that it is
its own type under every grammar. -/
def soleResult (datasetType : String) : List (List Record) :=
  [[⟨.portmatching, datasetType, [("size", .int 200), ("duration", .int 1)]⟩]]

/-- One result on equivalence classes has points in the figure about them and in the single one. -/
lemma isEmpty_soleResult_eccs (options : SchemaOptions) :
    (eccsComparison (normalize (aggregate (soleResult eccsType)) options).table).isEmpty = false ∧
      (singleComparison (normalize (aggregate (soleResult eccsType)) options).table).isEmpty =
        false := by
  obtain ⟨grammar, durationName⟩ := options
  cases grammar <;> cases durationName <;> decide +kernel

/-- One result on random circuits has points in the figure about them only. -/
lemma isEmpty_soleResult_random (options : SchemaOptions) :
    (eccsComparison (normalize (aggregate (soleResult randomType)) options).table).isEmpty = true ∧
      (randomScaling (normalize (aggregate (soleResult randomType)) options).table).isEmpty =
        false := by
  obtain ⟨grammar, durationName⟩ := options
  cases grammar <;> cases durationName <;> decide +kernel

/-- For each file of a run without image type, the table of some results is refused. -/
lemma exists_refused (c : Config) {path : String} (hpath : path ∈ c.destinations)
    (hformat : ImageFormat.ofPath? path = none) :
    ∃ sets, ∀ library t cwd,
      (c.rendering library t cwd (normalize (aggregate sets) c.schemaOptions).table).error =
        some (.unsupportedFormat path) := by
  -- the figure comes first in the plan, or behind one without points
  have hstop : ∀ sets before figure after,
      planFigures (normalize (aggregate sets) c.schemaOptions).table c.plot.layout c.targets =
        before ++ (figure, path) :: after →
      (∀ p ∈ before, p.1.isEmpty = true) → figure.isEmpty = false → ∀ library t cwd,
        (c.rendering library t cwd (normalize (aggregate sets) c.schemaOptions).table).error =
          some (.unsupportedFormat path) := by
    intro sets before figure after hplan hbefore hempty library t cwd
    refine (renderAll_unsupportedFormat_iff.2
      ⟨before, figure, after, hplan, ?_, hempty, hformat, rfl⟩).1
    exact error_eq_none_of_isEmpty hbefore
  unfold Config.destinations Layout.destinations at hpath
  cases hlayout : c.plot.layout with
  | comparison =>
    rw [hlayout] at hpath hstop
    rcases List.mem_pair.1 hpath with rfl | rfl
    · exact ⟨soleResult eccsType, hstop _ [] _ [_] rfl (by simp) (isEmpty_soleResult_eccs _).1⟩
    · obtain ⟨heccs, hrandom⟩ := isEmpty_soleResult_random c.schemaOptions
      exact ⟨soleResult randomType, hstop _ [_] _ [] rfl (by simpa using heccs) hrandom⟩
  | single =>
    rw [hlayout] at hpath hstop
    obtain rfl := List.mem_singleton.1 hpath
    exact ⟨soleResult eccsType, hstop _ [] _ [] rfl (by simp) (isEmpty_soleResult_eccs _).2⟩

/-! ### Runs that pass the checks -/

/-- Some files are written and then another is refused exactly when the figure of equivalence
classes is rendered, and that of random circuits has points and a file without image type. -/
lemma rendering_halfway_iff (c : Config) (library : DrawingLibrary) (t : Tree) (cwd : Location)
    (table : NormalizedTable) (path : String) {written : List String} (hwritten : written ≠ []) :
    (c.rendering library t cwd table).error = some (.unsupportedFormat path) ∧
        (c.rendering library t cwd table).written = written ↔
      (c.plot.layout = .comparison ∧ path = c.randomOutput ∧ written = [c.eccsOutput]) ∧
      ((eccsComparison table).isEmpty = false ∧
        library.Renders t cwd (eccsComparison table) c.eccsOutput c.figureSize) ∧
      (randomScaling table).isEmpty = false ∧ ImageFormat.ofPath? path = none := by
  unfold Config.rendering renderLayoutWith
  rw [renderAll_unsupportedFormat_iff]
  constructor
  · rintro ⟨before, figure, after, hplan, hbefore, hempty, hformat, rfl⟩
    cases before with
    | nil => exact absurd rfl hwritten
    | cons first others =>
      cases hlayout : c.plot.layout with
      | single =>
        rw [hlayout] at hplan
        simp [planFigures] at hplan
      | comparison =>
        rw [hlayout] at hplan
        cases others with
        | cons second others => simp [planFigures] at hplan
        | nil =>
          obtain ⟨rfl, ⟨rfl, rfl⟩, rfl⟩ : (eccsComparison table, c.eccsOutput) = first ∧
              (randomScaling table = figure ∧ c.randomOutput = path) ∧ after = [] := by
            simpa [planFigures, Config.targets] using hplan
          have heccs : (eccsComparison table).isEmpty = false := by
            rw [← Bool.not_eq_true]
            exact fun h => hwritten (by simp [drawnFiles, h])
          rw [error_renderAll_singleton heccs, error_renderFigure_eq_none_iff] at hbefore
          refine ⟨⟨rfl, rfl, ?_⟩, ⟨heccs, hbefore⟩, hempty, hformat⟩
          simp [drawnFiles, heccs]
  · rintro ⟨⟨hlayout, rfl, rfl⟩, ⟨heccs, hrendered⟩, hrandom, hformat⟩
    refine ⟨[(eccsComparison table, c.eccsOutput)], randomScaling table, [], ?_, ?_, hrandom,
      hformat, ?_⟩
    · rw [hlayout]
      rfl
    · rw [error_renderAll_singleton heccs, error_renderFigure_eq_none_iff]
      exact hrendered
    · simp [drawnFiles, heccs]

/-- Of a run whose arguments pass their check, a file without image type is named by the settings,
whose check looks at no file. If there is such a file, some results make rendering end at it. -/
theorem imageTypeFaults_of_check (base : Config) {a : Arguments} {t : Tree} {cwd : Location}
    (h : a.check t cwd = .ok ()) : ImageTypeFaults base a (base.merge a) := by
  constructor
  case planned => exact fun table => map_snd_planFigures table _ _
  case named => exact fun hinit path hpath hformat => settingsName_of_check h hinit hpath hformat
  case unchecked => exact fun _ _ _ => rfl
  case accepted =>
    intro haccepted library t cwd table path herror
    obtain ⟨before, figure, after, hplan, -, -, hformat⟩ :=
      exists_of_renderAll_unsupportedFormat herror
    refine haccepted path ?_ hformat
    rw [Config.destinations, ← map_snd_planFigures table, hplan]
    simp
  case refused => exact fun path hpath hformat => exists_refused _ hpath hformat
  case halfway_iff =>
    exact fun library t cwd table path written hwritten =>
      rendering_halfway_iff _ library t cwd table path hwritten

/-- Settings that send the figure of random circuits to a file without image type. -/
def pdfConfigText : List Char :=
  "[plot]\nrandom_file = \"random.pdf\"\n".toList

/-- The settings of the text. -/
def pdfConfig : Config :=
  { plot := { randomFile := "random.pdf" } }

/-- Results for both compared figures. -/
def comparedResults : List (List Record) := [
  [⟨.quartz, "2_6-eccs", [("size", .int 7), ("duration", .int 2)]⟩],
  [⟨.portmatching, "4_15-random", [("size", .int 200), ("duration", .int 1)]⟩]]

/-- Arguments that name a file of their own do not change where the compared figures go. -/
theorem imageTypeFaults_of_check_pdfConfig :
    Arguments.check { outputFile := some "plot.svg" } ⟨[]⟩ [] = .ok () ∧
      ImageTypeFaults pdfConfig { outputFile := some "plot.svg" }
        (pdfConfig.merge { outputFile := some "plot.svg" }) := by
  have hcheck : Arguments.check { outputFile := some "plot.svg" } ⟨[]⟩ [] = .ok () := by
    decide +kernel
  exact ⟨hcheck, imageTypeFaults_of_check pdfConfig hcheck⟩

/-- Without arguments the settings pass both checks, and of the two figures the first is written and
the second refused for the type of its file. -/
theorem pdfConfig_stopsHalfway :
    (Config.read? pdfConfigText = some pdfConfig ∧ Arguments.read [] = .ok {} ∧
      Arguments.check {} ⟨[]⟩ [] = .ok () ∧ (pdfConfig.merge {}).check = .ok ()) ∧
    ((pdfConfig.merge {}).rendering svgLibrary ⟨[]⟩ []
      (normalize (aggregate comparedResults) (pdfConfig.merge {}).schemaOptions).table).written =
        ["results/bench-eccs.svg"] ∧
    ((pdfConfig.merge {}).rendering svgLibrary ⟨[]⟩ []
      (normalize (aggregate comparedResults) (pdfConfig.merge {}).schemaOptions).table).error =
        some (.unsupportedFormat "results/random.pdf") := by
  decide +kernel

end CircuitBench
