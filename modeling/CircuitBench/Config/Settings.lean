import CircuitBench.Chart.Plan
import CircuitBench.Chart.Drawing
import CircuitBench.Files.Path
import CircuitBench.Results.Loading
import CircuitBench.Toml.Document
import CircuitBench.Toml.Printing

/-!
# Configurations

The settings of a run, as a configuration file gives them. Everything has a default
(`Config.standard`). `Config.read?` is the configuration that a TOML text gives and `Config.text`
the text of a configuration; `Config.check` tells whether the settings can be used, and
`Config.targets` where they send the figures.
-/

namespace CircuitBench

/-- Where results are and where the single figure goes. -/
structure GeneralConfig where
  resultsFolder : String := "results"
  outputFile : String := "results/bench-plot.svg"
  verbose : Bool := false
deriving DecidableEq, Repr

/-- Which files are result files. -/
structure LoaderConfig where
  extensions : List String := standardExtensions
deriving DecidableEq, Repr

/-- How names are read and columns are named. -/
structure SchemaConfig where
  grammar : DatasetGrammar := .qubitsGatesType
  durationName : DurationName := .runtime
deriving DecidableEq, Repr

/-- Which figures are drawn, where they go below the results folder, and how large they are. -/
structure PlotConfig where
  layout : Layout := .comparison
  eccsFile : String := "bench-eccs.svg"
  randomFile : String := "bench-random.svg"
  facetWidth : Nat := 480
  height : Nat := 480
deriving DecidableEq, Repr

/-- The settings of a run. -/
structure Config where
  general : GeneralConfig := {}
  loader : LoaderConfig := {}
  schema : SchemaConfig := {}
  plot : PlotConfig := {}
deriving DecidableEq, Repr

/-- The settings unless others are given. -/
def Config.standard : Config := {}

/-! ### Names of choices -/

/-- The grammar of a name. -/
def DatasetGrammar.ofName? : String → Option DatasetGrammar
  | "qubits-gates-type" => some .qubitsGatesType
  | "legacy-voqc" => some .legacyVoqc
  | _ => none

/-- The name of a choice of the duration column. -/
def DurationName.name : DurationName → String
  | .runtime => "runtime"
  | .duration => "duration"

/-- The choice of a name. -/
def DurationName.ofName? : String → Option DurationName
  | "runtime" => some .runtime
  | "duration" => some .duration
  | _ => none

/-- The name of a layout. -/
def Layout.name : Layout → String
  | .comparison => "comparison"
  | .single => "single"

/-- The layout of a name. -/
def Layout.ofName? : String → Option Layout
  | "comparison" => some .comparison
  | "single" => some .single
  | _ => none

/-! ### Reading -/

namespace Config

open Toml (Value)

/-- A field of a record, which is a table with named fields or a list of fields in their order. A
date or time counts as a table with none of the fields. -/
def field? (record : Value) (place : Nat) (name : String) : Option (Option Value) :=
  match record with
  | .table entries => some (entries.lookup name)
  | .array items => some items[place]?
  | .moment _ => some none
  | _ => none

/-- The value of a field, or its default. -/
def fieldD {α : Type} (record : Value) (place : Nat) (name : String) (default : α)
    (decode : Value → Option α) : Option α :=
  match field? record place name with
  | none => none
  | some none => some default
  | some (some v) => decode v

/-- A text. -/
def asString? : Value → Option String
  | .string s => some s
  | _ => none

/-- A truth value. -/
def asBool? : Value → Option Bool
  | .boolean b => some b
  | _ => none

/-- A number of 32 bits. -/
def asWord? : Value → Option Nat
  | .integer i => if 0 ≤ i ∧ i < Number.word32 then some i.toNat else none
  | _ => none

/-- A list of texts. -/
def asStrings? : Value → Option (List String)
  | .array items => items.mapM asString?
  | _ => none

/-- Whether a value is a list or a table with nothing in it. -/
def isEmptyValue : Value → Bool
  | .array [] => true
  | .table [] => true
  | _ => false

/-- One of several named choices: its name, or a table with its name as the only key and nothing
below it. -/
def asChoice? {α : Type} (ofName? : String → Option α) : Value → Option α
  | .string s => ofName? s
  | .table [(name, content)] => if isEmptyValue content then ofName? name else none
  | _ => none

/-- The general settings. -/
def asGeneral? (v : Value) : Option GeneralConfig := do
  let standard : GeneralConfig := {}
  return {
    resultsFolder := ← fieldD v 0 "results_folder" standard.resultsFolder asString?
    outputFile := ← fieldD v 1 "output_file" standard.outputFile asString?
    verbose := ← fieldD v 2 "verbose" standard.verbose asBool? }

/-- The settings about result files. -/
def asLoader? (v : Value) : Option LoaderConfig := do
  let standard : LoaderConfig := {}
  return { extensions := ← fieldD v 0 "extensions" standard.extensions asStrings? }

/-- The settings about names. -/
def asSchema? (v : Value) : Option SchemaConfig := do
  let standard : SchemaConfig := {}
  return {
    grammar := ← fieldD v 0 "grammar" standard.grammar (asChoice? DatasetGrammar.ofName?)
    durationName :=
      ← fieldD v 1 "duration_column" standard.durationName (asChoice? DurationName.ofName?) }

/-- The settings about figures. -/
def asPlot? (v : Value) : Option PlotConfig := do
  let standard : PlotConfig := {}
  return {
    layout := ← fieldD v 0 "layout" standard.layout (asChoice? Layout.ofName?)
    eccsFile := ← fieldD v 1 "eccs_file" standard.eccsFile asString?
    randomFile := ← fieldD v 2 "random_file" standard.randomFile asString?
    facetWidth := ← fieldD v 3 "facet_width" standard.facetWidth asWord?
    height := ← fieldD v 4 "height" standard.height asWord? }

/-- The settings that a table gives; what is not known is passed over. -/
def ofValue? (v : Value) : Option Config := do
  return {
    general := ← fieldD v 0 "general" {} asGeneral?
    loader := ← fieldD v 1 "loader" {} asLoader?
    schema := ← fieldD v 2 "schema" {} asSchema?
    plot := ← fieldD v 3 "plot" {} asPlot? }

/-- The configuration that a TOML text gives. -/
def read? (cs : List Char) : Option Config :=
  (Toml.readDocument? cs).bind fun entries => ofValue? (.table entries)

/-! ### Writing -/

/-- The TOML text of a configuration. -/
def text (c : Config) : List Char :=
  Toml.documentText [
    Toml.sectionText "general" [
      Toml.entryLine "results_folder" (Toml.stringText c.general.resultsFolder),
      Toml.entryLine "output_file" (Toml.stringText c.general.outputFile),
      Toml.entryLine "verbose" (toString c.general.verbose).toList],
    Toml.sectionText "loader" [
      Toml.entryLine "extensions" (Toml.listText c.loader.extensions)],
    Toml.sectionText "schema" [
      Toml.entryLine "grammar" (Toml.stringText c.schema.grammar.name),
      Toml.entryLine "duration_column" (Toml.stringText c.schema.durationName.name)],
    Toml.sectionText "plot" [
      Toml.entryLine "layout" (Toml.stringText c.plot.layout.name),
      Toml.entryLine "eccs_file" (Toml.stringText c.plot.eccsFile),
      Toml.entryLine "random_file" (Toml.stringText c.plot.randomFile),
      Toml.entryLine "facet_width" (Number.natText c.plot.facetWidth),
      Toml.entryLine "height" (Number.natText c.plot.height)]]

/-! ### Use -/

/-- The largest width of a facet and height of a figure in pixels. -/
def pixelLimit : Nat := 8192

/-- Why settings cannot be used. -/
inductive Fault where
  | pixels (key : String) (value : Nat)
  | noExtension
deriving DecidableEq, Repr

/-- The wording of a fault. -/
def Fault.message : Fault → String
  | .pixels key value => s!"{key} must be between 1 and {pixelLimit} pixels, got {value}"
  | .noExtension => "loader.extensions must name at least one extension"

/-- A size in pixels that can be drawn. -/
def isDrawable (pixels : Nat) : Bool :=
  0 < pixels && pixels ≤ pixelLimit

/-- Whether a text is blank. -/
def isBlankText (s : String) : Bool :=
  s.toList.all Text.isBlank

/-- The first reason why settings cannot be used. -/
def check (c : Config) : Except Fault Unit :=
  if !isDrawable c.plot.facetWidth then .error (.pixels "plot.facet_width" c.plot.facetWidth)
  else if !isDrawable c.plot.height then .error (.pixels "plot.height" c.plot.height)
  else if c.loader.extensions.all isBlankText then .error .noExtension
  else .ok ()

/-- The path of the figure of equivalence classes. -/
def eccsOutput (c : Config) : String :=
  String.ofList (Path.join c.general.resultsFolder.toList c.plot.eccsFile.toList)

/-- The path of the figure of random circuits. -/
def randomOutput (c : Config) : String :=
  String.ofList (Path.join c.general.resultsFolder.toList c.plot.randomFile.toList)

/-- The files that figures go to. -/
def targets (c : Config) : Targets :=
  ⟨c.general.outputFile, c.eccsOutput, c.randomOutput⟩

/-- The size of figures. -/
def figureSize (c : Config) : FigureSize :=
  ⟨c.plot.facetWidth, c.plot.height⟩

/-- How names are read and columns are named. -/
def schemaOptions (c : Config) : SchemaOptions :=
  ⟨c.schema.grammar, c.schema.durationName⟩

end Config

end CircuitBench
