import CircuitBench.Chart.Rendering
import CircuitBench.Circuit.Qasm.Reading
import CircuitBench.Circuit.Qasm.Writing
import CircuitBench.Circuit.Tket.Conversion
import CircuitBench.Cli.Check
import CircuitBench.Run.Pipeline

/-!
# Running the programs

The benchmark program and the two converters as functions of their arguments and of the files that
are there. What they print, log and write is their `Outcome`. The benchmark program is
`runBenchmarksWith` a library that draws its figures, and `runBenchmarks` with its own; the settings
of a run come from `loadConfig`. The converters are `runQasmToJson` and `runJsonToQasm`.
-/

namespace CircuitBench

/-- The result of a run: the exit code, what is printed, error messages, the log, and the files. -/
structure Outcome where
  exit : Nat
  output : String
  errors : List String
  log : List LogEntry
  tree : Tree

/-- The file that a configuration is looked up in. -/
def defaultConfigFile : String := ".matchbench.toml"

/-- The version of the programs. -/
def version : String := "1.0.0"

/-- What is printed when help is asked for. -/
def helpText : String :=
  "Compare Quartz and Portmatching pattern matching benchmarks\n\n" ++
  "Usage: matchbench [OPTIONS]\n\n" ++
  "Options:\n" ++
  "  -r, --results_folder <DIR>      Folder with the results of each algorithm\n" ++
  "  -o, --output_file <FILE>        File of the single figure (.svg or .png)\n" ++
  "      --layout <LAYOUT>           comparison or single\n" ++
  "      --grammar <GRAMMAR>         qubits-gates-type or legacy-voqc\n" ++
  "      --duration-column <NAME>    runtime or duration\n" ++
  "      --extensions <EXTS>         Extensions of result files, with commas between them\n" ++
  "      --export <FILE>             File for the normalized table (.csv or .json)\n" ++
  "      --no-plot                   Draw no figures\n" ++
  "  -c, --config <FILE>             Configuration file\n" ++
  "  -v, --verbose                   Log in detail\n" ++
  "  -q, --quiet                     Print only errors\n" ++
  "      --init-config               Write a configuration file with the defaults\n" ++
  "  -h, --help                      Print help\n" ++
  "  -V, --version                   Print version\n"

/-- A run that ends with an error message. -/
def Outcome.failed (t : Tree) (message : String) : Outcome :=
  ⟨1, "", [message], [], t⟩

/-! ### Settings -/

/-- Why a configuration file cannot be used. -/
inductive ConfigError where
  | unreadable (path : String) (cause : FileError)
  | malformed (path : String)
deriving DecidableEq, Repr

/-- The wording of an error, without its cause. -/
def ConfigError.summary : ConfigError → String
  | .unreadable path _ => s!"Failed to read config file: {path}"
  | .malformed path => s!"Failed to parse config file: {path}"

/-- The wording of an error with its cause. -/
def ConfigError.message (e : ConfigError) : String :=
  match e with
  | .unreadable _ cause => s!"{e.summary}: {cause.message}"
  | .malformed _ => s!"{e.summary}: TOML parse error"

/-- The configuration in a file. -/
def readConfig (t : Tree) (cwd : Location) (path : String) : Except ConfigError Config :=
  match t.readText cwd path with
  | .error cause => .error (.unreadable path cause)
  | .ok cs =>
    match Config.read? cs with
    | some c => .ok c
    | none => .error (.malformed path)

/-- Where the settings of a run come from. -/
inductive ConfigOrigin where
  | file (path : String)
  | defaults
  /-- The default file is there and cannot be used. -/
  | fallback (cause : ConfigError)
deriving DecidableEq, Repr

/-- The log entry about where settings come from. -/
def ConfigOrigin.log : ConfigOrigin → LogEntry
  | .file path => ⟨.info, s!"Loaded config from {path}"⟩
  | .defaults => ⟨.debug, "No config file found, using defaults"⟩
  | .fallback cause => ⟨.warn, s!"Failed to load config: {cause.message}"⟩

/-- The settings of a file that is named, of the default file, or the defaults. -/
def baseConfig (t : Tree) (cwd : Location) (a : Arguments) :
    Except ConfigError (Config × ConfigOrigin) :=
  match a.config with
  | some path => (readConfig t cwd path).map (·, .file path)
  | none =>
    if t.pathExists cwd defaultConfigFile then
      match readConfig t cwd defaultConfigFile with
      | .ok c => .ok (c, .file defaultConfigFile)
      | .error cause => .ok (.standard, .fallback cause)
    else .ok (.standard, .defaults)

/-- The settings of a run and where they come from, or the message that refuses them. -/
def loadConfig (t : Tree) (cwd : Location) (a : Arguments) :
    Except String (Config × ConfigOrigin) :=
  match baseConfig t cwd a with
  | .error cause => .error cause.message
  | .ok (base, origin) =>
    let c := base.merge a
    match c.check with
    | .error fault => .error s!"Invalid configuration: {fault.message}"
    | .ok () => .ok (c, origin)

/-- The least important level that a run logs. -/
def shownLevel (a : Arguments) (c : Config) : LogLevel :=
  if !a.quiet && c.general.verbose then .debug else a.logLevel

/-! ### The benchmark program -/

/-- The outcome of making a configuration file. -/
def runInitConfig (t : Tree) (cwd : Location) : Outcome :=
  if t.pathExists cwd defaultConfigFile then
    .failed t s!"⚠️  {defaultConfigFile} already exists. Remove it first or edit it manually."
  else match t.writeFile cwd defaultConfigFile (Utf8.encode Config.standard.text) with
    | .error cause => .failed t s!"❌ Error: Failed to write {defaultConfigFile}: {cause.message}"
    | .ok written =>
      let output := s!"✅ Created {defaultConfigFile} with default settings.\n" ++
        "   Edit it to customize the results folder, grammar, layout, and more.\n"
      ⟨0, output, [], [], written⟩

/-- The cause of an error once more, where its wording holds it already. -/
def RenderError.repeatedCause : RenderError → String
  | .cannotCreateFolder _ cause => s!": {cause.message}"
  | _ => ""

/-- The cause of an error once more, where its wording holds it already. -/
def ExportError.repeatedCause : ExportError → String
  | .cannotWrite _ cause => s!": {cause.message}"
  | _ => ""

/-- The name of a layout in messages. -/
def Layout.title : Layout → String
  | .comparison => "Comparison"
  | .single => "Single"

/-- A text that is left out of a quiet run. -/
def unlessQuiet (a : Arguments) (text : String) : String :=
  if a.quiet then "" else text

/-- The pipeline's options under some settings. -/
def Config.pipelineOptions (c : Config) : PipelineOptions :=
  ⟨Source.all, c.loader.extensions, c.schemaOptions⟩

/-- The rendering of a run's figures; nothing where none are asked for. -/
def renderStage (library : DrawingLibrary) (t : Tree) (cwd : Location) (a : Arguments) (c : Config)
    (table : NormalizedTable) : Rendering :=
  if a.noPlot then ⟨t, [], none, [⟨.debug, "Skipping chart rendering (--no-plot)"⟩]⟩
  else
    let r := renderLayoutWith library t cwd table c.plot.layout c.targets c.figureSize
    { r with log := planLog table c.plot.layout c.targets ++ r.log }

/-- The tree after the export of a run, the error that ended it, and its log. -/
def exportStage (t : Tree) (cwd : Location) (a : Arguments) (table : Table) :
    Tree × Option String × List LogEntry :=
  match a.exportFile with
  | none => (t, none, [])
  | some path =>
    match writeTable t cwd table path with
    | (after, some e) =>
      (after, some s!"Failed to export table to {path}: {e.message}{e.repeatedCause}", [])
    | (after, none) => (after, none, [⟨.info, s!"Exported normalized table to {path}"⟩])

/-- The last lines of a run. -/
def closingText (summary : RunSummary) (figures : List String) (elapsed : String) : String :=
  "\n" ++ summary.text figures ++ "\n" ++ s!"   Duration: {elapsed}s\n" ++ "\n✅ Done.\n"

/-- The outcome of loading, rendering and exporting, with everything that is logged. -/
def runStages (library : DrawingLibrary) (t : Tree) (cwd : Location) (a : Arguments) (c : Config)
    (elapsed : String) : Outcome :=
  let folder := c.general.resultsFolder
  let loaded := collect t cwd folder c.pipelineOptions
  let table := loaded.normalized.table
  let emptyLog : List LogEntry :=
    if table.table.isEmpty then [⟨.warn, s!"No benchmark results found under {folder}"⟩] else []
  let rendering := renderStage library t cwd a c table
  let log := loaded.log ++ emptyLog ++ rendering.log
  let output := unlessQuiet a (s!"📥 Loading results from: {folder}\n" ++
    if a.noPlot then "" else s!"🖌️  Rendering {c.plot.layout.title} layout...\n")
  let failed (t : Tree) (message : String) : Outcome :=
    ⟨1, output, [s!"❌ Error: {message}"], log ++ [⟨.error, s!"Run failed: {message}"⟩], t⟩
  match rendering.error with
  | some e => failed rendering.tree s!"Failed to render charts: {e.message}{e.repeatedCause}"
  | none =>
    match exportStage rendering.tree cwd a table.table with
    | (after, some message, _) => failed after message
    | (after, none, exportLog) =>
      ⟨0, output ++ unlessQuiet a (closingText loaded.summary rendering.written elapsed), [],
        log ++ exportLog, after⟩

/-- The outcome of the benchmark program with readable arguments. -/
def runArguments (library : DrawingLibrary) (t : Tree) (cwd : Location) (a : Arguments)
    (elapsed : String) : Outcome :=
  match a.check t cwd with
  | .error fault => .failed t s!"Error: {fault.message}"
  | .ok () =>
    if a.initConfig then runInitConfig t cwd
    else match loadConfig t cwd a with
      | .error message => .failed t s!"❌ Error: {message}"
      | .ok (c, origin) =>
        let outcome := runStages library t cwd a c elapsed
        let start := [⟨.info, s!"matchbench v{version}"⟩, origin.log]
        { outcome with log := (start ++ outcome.log).filter (LogEntry.isShown (shownLevel a c)) }

/-- The outcome of the benchmark program when a library draws its figures. -/
def runBenchmarksWith (library : DrawingLibrary) (t : Tree) (cwd : Location)
    (arguments : List String)
    (elapsed : String) : Outcome :=
  match Arguments.read arguments with
  | .ok a => runArguments library t cwd a elapsed
  | .error .displayHelp => ⟨0, helpText, [], [], t⟩
  | .error .displayVersion => ⟨0, s!"matchbench {version}\n", [], [], t⟩
  | .error e => ⟨e.exitCode, "", ["error: the arguments cannot be used; try --help"], [], t⟩

/-- The outcome of the benchmark program. -/
def runBenchmarks : Tree → Location → List String → String → Outcome :=
  runBenchmarksWith svgLibrary

/-! ### The converters -/

/-- The outcome of a program that takes one text and converts it. -/
def runConverter (program argumentName : String)
    (convert : List Char → Except CircuitError (List Char))
    (t : Tree) (arguments : List String) : Outcome :=
  match arguments with
  | [text] =>
    match convert text.toList with
    | .ok cs => ⟨0, String.ofList cs, [], [], t⟩
    | .error e => .failed t s!"Error: {e.message}"
  | _ => ⟨1, s!"Usage: {program} <{argumentName}>\n", [], [], t⟩

/-- The outcome of converting OpenQASM to JSON, which is printed on a line of its own. -/
def runQasmToJson : Tree → List String → Outcome :=
  runConverter "qasm-to-json" "qasm string" fun cs =>
    (Qasm.readProgram cs).map fun c => Tket.circuitText c ++ ['\n']

/-- The outcome of converting JSON to OpenQASM. -/
def runJsonToQasm : Tree → List String → Outcome :=
  runConverter "json-to-qasm" "json string" fun cs => Tket.readCircuit cs >>= Qasm.programText

end CircuitBench
