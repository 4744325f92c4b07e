import CircuitBench.Csv.Record
import CircuitBench.Files.Tree
import CircuitBench.Report.Log
import CircuitBench.Results.Record

/-!
# Loading result files

The results of a source are the tabular files directly in its folder (`isTabular`). `visitFolder`
lists what is met there, in the order of names, and `load` reads the result files among it. A file
that cannot be read, and a folder that cannot be listed, are skipped and told about; they never end
the loading.
-/

namespace CircuitBench

/-- Why an entry of a folder cannot be visited. -/
inductive VisitFault where
  | unreadable (path : String) (cause : FileError)
  /-- A link leads back to the folder that is visited. -/
  | loop (path ancestor : String)
  /-- A fault that comes without the path of an entry. -/
  | nameless (cause : FileError)
deriving DecidableEq, Repr

/-- The wording of a fault. -/
def VisitFault.message : VisitFault → String
  | .unreadable path cause => s!"IO error for operation on {path}: {cause.message}"
  | .loop path ancestor => s!"File system loop found: {path} points to an ancestor {ancestor}"
  | .nameless cause => cause.message

/-- Why the records of a file cannot be read. -/
inductive RecordFault where
  | unreadable (cause : FileError)
  | csv (cause : Csv.CsvFault)
deriving DecidableEq, Repr

/-- The wording of a fault. -/
def RecordFault.message : RecordFault → String
  | .unreadable cause => cause.message
  | .csv cause => cause.message

/-- Why a result file is skipped. -/
inductive LoadError where
  | cannotOpen (path : String) (cause : FileError)
  | badRecord (path : String) (cause : RecordFault)
  | badEntry (path : String) (cause : VisitFault)
deriving DecidableEq, Repr

/-- The wording of an error. -/
def LoadError.message : LoadError → String
  | .cannotOpen path cause => s!"failed to open {path}: {cause.message}"
  | .badRecord path cause => s!"malformed record in {path}: {cause.message}"
  | .badEntry path cause => s!"cannot read {path}: {cause.message}"

/-- A file that was found and not loaded. -/
structure Skipped where
  path : String
  error : LoadError
deriving DecidableEq, Repr

/-! ### Listing a folder -/

/-- The extensions of result files unless others are chosen. -/
def standardExtensions : List String := ["csv", "tsv"]

/-- Whether two texts agree apart from the case of ASCII letters. -/
def equalIgnoringCase (a b : List Char) : Bool :=
  a.map Char.toLower == b.map Char.toLower

/-- Whether a path has one of some extensions. A path without an extension counts as one with the
empty extension. -/
def isTabular (extensions : List String) (path : String) : Bool :=
  let extension := (Path.extension? path.toList).getD []
  extensions.any fun allowed => equalIgnoringCase allowed.toList extension

/-- Something met in a folder. -/
inductive Visit where
  /-- A result file. -/
  | tabular (path : String)
  /-- An entry that cannot be visited and would be a result file by its name. -/
  | unreadable (path : String) (fault : VisitFault)
  /-- Another entry that cannot be visited. -/
  | ignored (path : String) (fault : VisitFault)
deriving DecidableEq, Repr

/-- The path of an entry of a folder. -/
def entryPath (folder name : String) : String :=
  String.ofList (Path.join folder.toList name.toList)

/-- What a file means. -/
def visitFile (extensions : List String) (path : String) : List Visit :=
  if isTabular extensions path then [.tabular path] else []

/-- What an entry that cannot be visited means. -/
def visitUnreadable (extensions : List String) (path : String) (fault : VisitFault) : List Visit :=
  if isTabular extensions path then [.unreadable path fault] else [.ignored path fault]

/-- What an entry of the folder at `root` means. The kind of an entry is known from the folder; only
a link is followed, and it must not lead back to the folder. To tell whether it does, a folder at
its end is opened, and where that fails it is the visited folder that cannot be read. -/
def visitEntry (t : Tree) (cwd root : Location) (extensions : List String) (folder name : String) :
    List Visit :=
  let path := entryPath folder name
  match t.entry? (root ++ [name]) with
  | some (.link _) =>
    match t.stat cwd path with
    | .ok (loc, entry) =>
      if entry.isRegular then visitFile extensions path
      else if entry = .unlisted then [.unreadable folder (.nameless .permissionDenied)]
      else if entry = .folder ∧ loc = root then
        visitUnreadable extensions path (.loop path folder)
      else []
    | .error cause => visitUnreadable extensions path (.unreadable path cause)
  | some entry => if entry.isRegular then visitFile extensions path else []
  | none => []

/-- What is met in a folder, in the order of names. A path that leads nowhere and a folder that
cannot be listed are told about whatever their names are. -/
def visitFolder (t : Tree) (cwd : Location) (extensions : List String) (folder : String) :
    List Visit :=
  match t.stat cwd folder with
  | .error cause => [.unreadable folder (.unreadable folder cause)]
  | .ok (root, .folder) => (t.names root).flatMap (visitEntry t cwd root extensions folder)
  | .ok (_, .unlisted) => [.unreadable folder (.unreadable folder .permissionDenied)]
  | .ok _ => []

/-- The result files among what is met. -/
def tabularPaths (visits : List Visit) : List String :=
  visits.filterMap fun
    | .tabular path => some path
    | _ => none

/-- The result files that cannot be visited. -/
def unreadablePaths (visits : List Visit) : List Skipped :=
  visits.filterMap fun
    | .unreadable path fault => some ⟨path, .badEntry path fault⟩
    | _ => none

/-! ### Reading a file -/

/-- The byte between fields: a tab in files with the extension `tsv`, else a comma. -/
def delimiterFor (path : String) : UInt8 :=
  match Path.extension? path.toList with
  | some extension => if equalIgnoringCase extension "tsv".toList then 9 else 44
  | none => 44

/-- The cell of a field: measurements are numbers, all else is text. -/
def readCell (column : String) (raw : List Char) : Cell :=
  if column == sizeColumn || column == durationColumn then Cell.infer raw else Cell.verbatim raw

/-- A column whose values come from the file's place and not from the file. -/
def isTagColumn (column : String) : Bool :=
  column == sourceColumn || column == datasetColumn

/-- The fields of a row under a header. -/
def readFields (header row : List (List Char)) : List (String × Cell) :=
  ((header.map String.ofList).zip row).filterMap fun (column, raw) =>
    if isTagColumn column then none else some (column, readCell column raw)

/-- The data set of a file: its name without the extension. -/
def datasetOf (path : String) : String :=
  String.ofList ((Path.stem? path.toList).getD [])

/-- The records of a header and rows. -/
def recordsOf (source : Source) (dataset : String) (sheet : Csv.Sheet) : List Record :=
  sheet.rows.map fun row => ⟨source, dataset, readFields sheet.header row⟩

/-- The records of the file at a path. -/
def readResultFile (t : Tree) (cwd : Location) (source : Source) (path : String) :
    Except LoadError ResultFile :=
  match t.readBytes cwd path with
  | .error .isAFolder => .error (.badRecord path (.unreadable .isAFolder))
  | .error cause => .error (.cannotOpen path cause)
  | .ok bytes =>
    match Csv.Sheet.read (delimiterFor path) bytes with
    | .error cause => .error (.badRecord path (.csv cause))
    | .ok sheet =>
      .ok ⟨source, datasetOf path, path, recordsOf source (datasetOf path) sheet⟩

/-! ### Loading a source -/

/-- Everything loaded from the folder of a source. -/
structure LoadOutcome where
  source : Source
  folder : String
  /-- Whether the folder is there. -/
  present : Bool
  visits : List Visit
  /-- What came of reading each result file. -/
  readings : List (String × Except LoadError ResultFile)

/-- The file that a reading gave. -/
def readingFile? : String × Except LoadError ResultFile → Option ResultFile
  | (_, .ok file) => some file
  | (_, .error _) => none

/-- The file that was found and that a reading did not give. -/
def readingFailure? : String × Except LoadError ResultFile → Option Skipped
  | (_, .ok _) => none
  | (path, .error e) => some ⟨path, e⟩

namespace LoadOutcome

/-- The files that were read, in the order of names. -/
def files (o : LoadOutcome) : List ResultFile :=
  o.readings.filterMap readingFile?

/-- The files that could not be read, in the order of names. -/
def failures (o : LoadOutcome) : List Skipped :=
  o.readings.filterMap readingFailure?

/-- The files that were found and not read. -/
def skipped (o : LoadOutcome) : List Skipped :=
  unreadablePaths o.visits ++ o.failures

/-- The records of all files that were read. -/
def records (o : LoadOutcome) : List Record :=
  o.files.flatMap ResultFile.records

/-- The number of records. -/
def recordCount (o : LoadOutcome) : Nat :=
  (o.files.map fun f => f.records.length).foldr (· + ·) 0

end LoadOutcome

/-- The folder of a source below the results folder. -/
def sourceFolder (resultsFolder : String) (source : Source) : String :=
  String.ofList (Path.join resultsFolder.toList source.folder.toList)

/-- Everything in the folder of a source. -/
def load (t : Tree) (cwd : Location) (extensions : List String) (resultsFolder : String)
    (source : Source) : LoadOutcome :=
  let folder := sourceFolder resultsFolder source
  if t.isFolder cwd folder then
    let visits := visitFolder t cwd extensions folder
    { source, folder, present := true, visits
      readings := (tabularPaths visits).map fun path => (path, readResultFile t cwd source path) }
  else { source, folder, present := false, visits := [], readings := [] }

/-! ### What is logged -/

/-- The log entry of something met in a folder. -/
def Visit.log : Visit → List LogEntry
  | .tabular _ => []
  | .unreadable path fault => [⟨.warn, s!"Cannot read {path}: {fault.message}"⟩]
  | .ignored path fault => [⟨.debug, s!"Ignoring unreadable entry {path}: {fault.message}"⟩]

/-- The log entry of reading a file. -/
def readingLog : String × Except LoadError ResultFile → LogEntry
  | (path, .ok file) => ⟨.debug, s!"Loaded {file.records.length} records from {path}"⟩
  | (_, .error e) => ⟨.warn, s!"Skipping result file: {e.message}"⟩

/-- The log of loading a source. -/
def LoadOutcome.log (o : LoadOutcome) : List LogEntry :=
  if o.present then o.visits.flatMap Visit.log ++ o.readings.map readingLog
  else [⟨.debug, s!"No results folder for {o.source.label} at {o.folder}"⟩]

end CircuitBench
