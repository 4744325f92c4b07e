import CircuitBench.Config.Settings

/-!
# Command line arguments

Options have a long name, some a short one, and a value that stands behind them or is attached.
Switches have no value. `Arguments.read` takes the arguments from left to right; the value of an
option is checked when the next known argument is met or the arguments end. A `UsageError` refuses
the arguments, or tells that they only ask for help or the version. `Config.merge` overrides
settings by arguments.
-/

namespace CircuitBench

/-- What the arguments of a command line ask for. -/
structure Arguments where
  resultsFolder : Option String := none
  outputFile : Option String := none
  layout : Option Layout := none
  grammar : Option DatasetGrammar := none
  durationName : Option DurationName := none
  extensions : Option (List String) := none
  exportFile : Option String := none
  noPlot : Bool := false
  config : Option String := none
  verbose : Bool := false
  quiet : Bool := false
  initConfig : Bool := false
deriving DecidableEq, Repr

/-- Why arguments are refused, or that they only ask for help or the version. -/
inductive UsageError where
  | unknownArgument
  | invalidValue
  | argumentConflict
  | tooManyValues
  | displayHelp
  | displayVersion
deriving DecidableEq, Repr

/-- Asking for help or the version is no failure. -/
def UsageError.exitCode : UsageError → Nat
  | .displayHelp => 0
  | .displayVersion => 0
  | _ => 1

namespace Arguments

/-- The options with a value. -/
inductive OptionName where
  | resultsFolder
  | outputFile
  | layout
  | grammar
  | durationColumn
  | extensions
  | exportFile
  | config
deriving DecidableEq, Repr

/-- The switches. -/
inductive Switch where
  | noPlot
  | verbose
  | quiet
  | initConfig
  | help
  | version
deriving DecidableEq, Repr

/-- An option or a switch. -/
inductive Name where
  | option (name : OptionName)
  | switch (name : Switch)
deriving DecidableEq, Repr

/-- The option or switch of a long name. -/
def longName? : String → Option Name
  | "results_folder" => some (.option .resultsFolder)
  | "output_file" => some (.option .outputFile)
  | "layout" => some (.option .layout)
  | "grammar" => some (.option .grammar)
  | "duration-column" => some (.option .durationColumn)
  | "extensions" => some (.option .extensions)
  | "export" => some (.option .exportFile)
  | "no-plot" => some (.switch .noPlot)
  | "config" => some (.option .config)
  | "verbose" => some (.switch .verbose)
  | "quiet" => some (.switch .quiet)
  | "init-config" => some (.switch .initConfig)
  | "help" => some (.switch .help)
  | "version" => some (.switch .version)
  | _ => none

/-- The option or switch of a letter. -/
def shortName? : Char → Option Name
  | 'r' => some (.option .resultsFolder)
  | 'o' => some (.option .outputFile)
  | 'c' => some (.option .config)
  | 'v' => some (.switch .verbose)
  | 'q' => some (.switch .quiet)
  | 'h' => some (.switch .help)
  | 'V' => some (.switch .version)
  | _ => none

/-- A setting that may be given once, from a value that has to be readable. -/
def setOnce {α : Type} (before : Option α) (value : Option α) (set : α → Arguments) :
    Except UsageError Arguments :=
  if before.isSome then .error .argumentConflict
  else match value with
    | some v => .ok (set v)
    | none => .error .invalidValue

/-- A path; the empty text is none. -/
def readPath? (value : String) : Option String :=
  if value.isEmpty then none else some value

/-- The items of a list with commas between them. -/
def splitList (value : String) : List String :=
  (Text.splitOnChar ',' value.toList).map String.ofList

/-- The arguments with the value of an option. -/
def setOption (a : Arguments) (name : OptionName) (value : String) : Except UsageError Arguments :=
  match name with
  | .resultsFolder => setOnce a.resultsFolder (readPath? value) fun v =>
    { a with resultsFolder := some v }
  | .outputFile => setOnce a.outputFile (readPath? value) fun v => { a with outputFile := some v }
  | .layout => setOnce a.layout (Layout.ofName? value) fun v => { a with layout := some v }
  | .grammar => setOnce a.grammar (DatasetGrammar.ofName? value) fun v =>
    { a with grammar := some v }
  | .durationColumn => setOnce a.durationName (DurationName.ofName? value) fun v =>
    { a with durationName := some v }
  | .extensions => .ok { a with extensions := some (a.extensions.getD [] ++ splitList value) }
  | .exportFile => setOnce a.exportFile (readPath? value) fun v => { a with exportFile := some v }
  | .config => setOnce a.config (readPath? value) fun v => { a with config := some v }

/-- A switch that may be given once. -/
def switchOnce (before : Bool) (after : Arguments) : Except UsageError Arguments :=
  if before then .error .argumentConflict else .ok after

/-- The arguments with a switch. -/
def setSwitch (a : Arguments) : Switch → Except UsageError Arguments
  | .noPlot => switchOnce a.noPlot { a with noPlot := true }
  | .verbose => switchOnce a.verbose { a with verbose := true }
  | .quiet => switchOnce a.quiet { a with quiet := true }
  | .initConfig => switchOnce a.initConfig { a with initConfig := true }
  | .help => .error .displayHelp
  | .version => .error .displayVersion

/-- What is read so far, and the option whose value comes next or has not been checked yet. -/
structure Reading where
  arguments : Arguments := {}
  pending : Option (OptionName × Option String) := none

/-- The arguments with the pending option settled. -/
def Reading.settle (r : Reading) : Except UsageError Arguments :=
  match r.pending with
  | none => .ok r.arguments
  | some (_, none) => .error .invalidValue
  | some (name, some value) => r.arguments.setOption name value

/-- A switch is met. -/
def Reading.switch (r : Reading) (s : Switch) : Except UsageError Reading := do
  return { arguments := ← (← r.settle).setSwitch s }

/-- An option is met, with an attached value or before its value. -/
def Reading.option (r : Reading) (name : OptionName) (attached : Option String) :
    Except UsageError Reading := do
  let settled ← r.settle
  match attached with
  | some value => return { arguments := ← settled.setOption name value }
  | none => return { arguments := settled, pending := some (name, none) }

/-- A long name and the value attached to it with an equals sign. -/
def splitAttached (cs : List Char) : String × Option String :=
  match Text.splitAt? ['='] cs with
  | some (name, value) => (String.ofList name, some (String.ofList value))
  | none => (String.ofList cs, none)

/-- An argument with a long name. -/
def Reading.long (r : Reading) (cs : List Char) : Except UsageError Reading :=
  let (name, attached) := splitAttached cs
  match longName? name with
  | none => .error .unknownArgument
  | some (.option o) => r.option o attached
  | some (.switch s) => if attached.isSome then .error .tooManyValues else r.switch s

/-- The value attached to a letter, without an equals sign in front. -/
def attachedValue? : List Char → Option String
  | [] => none
  | '=' :: value => some (String.ofList value)
  | value => some (String.ofList value)

/-- Letters behind one dash: switches, and at the end an option with the rest as its value. -/
def Reading.short (r : Reading) : List Char → Except UsageError Reading
  | [] => .ok r
  | c :: rest =>
    match shortName? c with
    | none => .error .unknownArgument
    | some (.option o) => r.option o (attachedValue? rest)
    | some (.switch s) => do (← r.switch s).short rest

/-- An argument without a dash, which only an option waits for. -/
def Reading.plain (r : Reading) (value : String) : Except UsageError Reading :=
  match r.pending with
  | some (name, none) => .ok { r with pending := some (name, some value) }
  | _ => .error .unknownArgument

/-- One more argument. -/
def Reading.next (r : Reading) (argument : String) : Except UsageError Reading :=
  match argument.toList with
  | '-' :: '-' :: name => r.long name
  | ['-'] => r.plain argument
  | '-' :: letters => r.short letters
  | _ => r.plain argument

/-- All arguments. Behind two dashes nothing is a name, and nothing is known. -/
def Reading.run (r : Reading) : List String → Except UsageError Arguments
  | [] => r.settle
  | argument :: rest =>
    if argument = "--" then
      if rest.isEmpty then r.settle else .error .unknownArgument
    else do (← r.next argument).run rest

/-- What the arguments of a command line ask for. -/
def read (arguments : List String) : Except UsageError Arguments :=
  ({} : Reading).run arguments

/-- The level of the log that the arguments ask for. -/
def logLevel (a : Arguments) : LogLevel :=
  if a.quiet then .error else if a.verbose then .debug else .info

end Arguments

/-- Settings that the arguments override. -/
def Config.merge (c : Config) (a : Arguments) : Config where
  general := {
    resultsFolder := a.resultsFolder.getD c.general.resultsFolder
    outputFile := a.outputFile.getD c.general.outputFile
    verbose := a.verbose || c.general.verbose }
  loader := { extensions := a.extensions.getD c.loader.extensions }
  schema := {
    grammar := a.grammar.getD c.schema.grammar
    durationName := a.durationName.getD c.schema.durationName }
  plot := { c.plot with layout := a.layout.getD c.plot.layout }

end CircuitBench
