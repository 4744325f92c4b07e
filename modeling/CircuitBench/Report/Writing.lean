import CircuitBench.Report.Export
import CircuitBench.Files.Tree

/-!
# Writing exported tables

`writeTable` puts a table into the file at a path, in the format that the path asks for by its
extension.
-/

namespace CircuitBench

/-- The format that a path asks for by its extension. -/
def ExportFormat.ofPath? (path : String) : Option ExportFormat :=
  match (Path.lowerExtension? path.toList).map String.ofList with
  | some "csv" => some .csv
  | some "json" => some .json
  | _ => none

/-- Why a table cannot be written. -/
inductive ExportError where
  | unsupportedFormat (path : String)
  | cannotWrite (path : String) (cause : FileError)
deriving DecidableEq, Repr

/-- The wording of an error. -/
def ExportError.message : ExportError → String
  | .unsupportedFormat path => s!"unsupported export type for {path} (expected .csv or .json)"
  | .cannotWrite path cause => s!"failed to write {path}: {cause.message}"

/-- The tree with a table written to a path, or the tree at the fault that ended the writing. -/
def writeTable (t : Tree) (cwd : Location) (table : Table) (path : String) :
    Tree × Option ExportError :=
  match ExportFormat.ofPath? path with
  | none => (t, some (.unsupportedFormat path))
  | some format =>
    match t.createParent cwd path with
    | .error cause => (t, some (.cannotWrite path cause))
    | .ok prepared =>
      match prepared.writeFile cwd path (Utf8.encode (table.exported format)) with
      | .error cause => (prepared, some (.cannotWrite path cause))
      | .ok written => (written, none)

end CircuitBench
