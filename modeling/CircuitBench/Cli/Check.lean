import CircuitBench.Chart.Drawing
import CircuitBench.Cli.Arguments
import CircuitBench.Files.Tree
import CircuitBench.Report.Writing

/-!
# Checking arguments

Arguments that can be read may still make no sense together or with the files that are there.
`Arguments.check` finds the first such fault.
-/

namespace CircuitBench

/-- Why arguments make no sense. -/
inductive ArgumentFault where
  | verboseAndQuiet
  | resultsFolderIsFile (path : String)
  | unsupportedOutput (path : String)
  | unsupportedExport (path : String)
  | noExtension
deriving DecidableEq, Repr

/-- The wording of a fault. -/
def ArgumentFault.message : ArgumentFault → String
  | .verboseAndQuiet => "Cannot use both --verbose and --quiet"
  | .resultsFolderIsFile path => s!"Results folder is not a directory: {path}"
  | .unsupportedOutput path => s!"Unsupported output file type: {path} (expected .svg or .png)"
  | .unsupportedExport path => s!"Unsupported export file type: {path} (expected .csv or .json)"
  | .noExtension => "At least one result file extension is required"

namespace Arguments

/-- Whether a path leads to something that is no folder. -/
def isFile (t : Tree) (cwd : Location) (path : String) : Bool :=
  t.pathExists cwd path && !t.isFolder cwd path

/-- A fault of an argument that is given and fails a test. -/
def refuseIf {α : Type} (value : Option α) (test : α → Bool) (fault : α → ArgumentFault) :
    Except ArgumentFault Unit :=
  match value with
  | some v => if test v then .error (fault v) else .ok ()
  | none => .ok ()

/-- The first fault of arguments. Nothing is asked of those that only make a configuration file. -/
def check (a : Arguments) (t : Tree) (cwd : Location) : Except ArgumentFault Unit :=
  if a.initConfig then .ok ()
  else if a.verbose && a.quiet then .error .verboseAndQuiet
  else do
    refuseIf a.resultsFolder (isFile t cwd) .resultsFolderIsFile
    refuseIf a.outputFile (fun path => (ImageFormat.ofPath? path).isNone) .unsupportedOutput
    refuseIf a.exportFile (fun path => (ExportFormat.ofPath? path).isNone) .unsupportedExport
    refuseIf a.extensions (fun es => es.all Config.isBlankText) fun _ => .noExtension

end Arguments

end CircuitBench
