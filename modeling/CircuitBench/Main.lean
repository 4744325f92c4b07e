import CircuitBench.Cli.Run

/-!
# The programs

One executable for the benchmark program and the two converters; its own file name tells which it
is. `lookedAt` gives the paths that a run follows and the folders that it lists, and `Tree.readAll`
reads what stands there into a tree, with the links and with what may not be opened or listed. After
the run `Tree.writeChanges` writes back the files that it leaves changed.

A disk tells where a link ends and not what is written in it. So a link is read as one to its end;
one that leads nowhere is read as one to a name that no disk can have, and what is written there is
written through the link; one that cannot be followed, above all one that leads round and round, is
read as one to itself. Pipes and devices are not read, and a fault of the disk while changes are
written back ends the program.
-/

namespace CircuitBench

/-- The paths that a run follows and the folders that it lists, as far as the settings in a tree
tell. -/
def lookedAt (t : Tree) (cwd : Location) (arguments : List String) : List String × List String :=
  match Arguments.read arguments with
  | .error _ => ([], [])
  | .ok a =>
    let named := defaultConfigFile ::
      (a.config.toList ++ a.resultsFolder.toList ++ a.exportFile.toList)
    match loadConfig t cwd a with
    | .error _ => (named, [])
    | .ok (c, _) =>
      (named ++ [c.general.outputFile, c.eccsOutput, c.randomOutput],
        Source.all.map (sourceFolder c.general.resultsFolder))

/-- The mark of names that no disk has. -/
def missingMark : Char := '\x00'

/-- The path on the disk of a place, without marks. -/
def diskPath (loc : Location) : String :=
  "/" ++ "/".intercalate (loc.map fun name => String.ofList (name.toList.filter (· != missingMark)))

/-- Where the link of a name in a folder ends: at a real path, at a marked name, or at itself. -/
def readLink (folder : Location) (name : String) : IO String := do
  let path := System.mkFilePath [diskPath (folder ++ [name])]
  match ← path.metadata.toBaseIO with
  | .ok _ => return (← IO.FS.realPath path).toString
  | .error (.noFileOrDirectory _ _ _) => return name.push missingMark
  | .error _ => return name

/-- What stands on the disk under a name in a folder. -/
def readEntry? (folder : Location) (name : String) : IO (Option Entry) := do
  if name.toList.contains missingMark then return none
  let path := System.mkFilePath [diskPath (folder ++ [name])]
  let .ok found ← path.symlinkMetadata.toBaseIO | return none
  match found.type with
  | .symlink => return some (.link (← readLink folder name))
  | .dir =>
    match ← path.readDir.toBaseIO with
    | .ok _ => return some .folder
    | .error _ => return some .unlisted
  | .file =>
    match ← (IO.FS.readBinFile path).toBaseIO with
    | .ok bytes => return some (.file bytes.toList)
    | .error _ => return some .locked
  | .other => return none

namespace Tree

/-- The tree with folders at all places on the way to a place. -/
def putFolders (t : Tree) (loc : Location) : Tree :=
  (List.range loc.length).foldl (fun t n =>
    let folder := loc.take (n + 1)
    if (t.entry? folder).isSome then t else t.put folder .folder) t

/-- Reads what stands on the disk along some names. `follow` goes on behind a link, and `atEnd` in
the folder at the end. -/
def readNames (follow : Tree → Location → List String → IO Tree)
    (atEnd : Tree → Location → IO Tree) :
    Tree → Location → List String → IO Tree
  | t, loc, [] => atEnd t loc
  | t, loc, name :: rest =>
    if name = "." then readNames follow atEnd t loc rest
    else if name = ".." then readNames follow atEnd t loc.dropLast rest
    else do
      let some entry ← readEntry? loc name | return t
      let here := loc ++ [name]
      let read := t.put here entry
      match entry with
      | .file _ => return read
      | .locked => return read
      | .folder => readNames follow atEnd read here rest
      | .unlisted => readNames follow atEnd read here rest
      | .link target =>
        follow read (if Path.isAbsolute target.toList then [] else loc) (steps target ++ rest)

/-- Reads what stands on the disk along some names and behind at most the given number of links. -/
def readWalk (atEnd : Tree → Location → IO Tree) : Nat → Tree → Location → List String → IO Tree
  | 0 => readNames (fun t _ _ => return t) atEnd
  | links + 1 => readNames (readWalk atEnd links) atEnd

/-- Reads the entries of a folder, and what its links lead to. -/
def readListing (t : Tree) (folder : Location) : IO Tree := do
  let .ok entries ← (System.mkFilePath [diskPath folder]).readDir.toBaseIO | return t
  entries.foldlM (fun t entry =>
    readWalk (fun t _ => return t) linkLimit t folder [entry.fileName]) t

/-- Reads what stands on the disk along some paths and in some folders. -/
def readAll (t : Tree) (cwd : Location) (paths folders : List String) : IO Tree := do
  let followed ← paths.foldlM (fun t path =>
    readWalk (fun t _ => return t) linkLimit t (start cwd path) (steps path)) t
  folders.foldlM (fun t folder =>
    readWalk readListing linkLimit t (start cwd folder) (steps folder)) followed

/-- Writes the files of a tree that another does not have. -/
def writeChanges (before after : Tree) : IO Unit := do
  for (loc, entry) in after.entries do
    if before.entry? loc != some entry then
      match entry with
      | .file bytes => IO.FS.writeBinFile (diskPath loc) ⟨bytes.toArray⟩
      | .folder => IO.FS.createDirAll (diskPath loc)
      | .locked | .unlisted | .link _ => pure ()

end Tree

/-- Milliseconds as seconds with one decimal. -/
def secondsText (milliseconds : Nat) : String :=
  s!"{milliseconds / 1000}.{milliseconds % 1000 / 100}"

/-- The outcome of the program of a name. -/
def runProgram (program : String) (t : Tree) (cwd : Location) (arguments : List String)
    (elapsed : String) : Outcome :=
  if program = "qasm-to-json" then runQasmToJson t arguments
  else if program = "json-to-qasm" then runJsonToQasm t arguments
  else runBenchmarks t cwd arguments elapsed

end CircuitBench

open CircuitBench in
def main (arguments : List String) : IO UInt32 := do
  let begun ← IO.monoMsNow
  let program := (← IO.appPath).fileName.getD ""
  let cwd := Tree.steps (← IO.currentDir).toString
  let start := (⟨[]⟩ : Tree).putFolders cwd
  let (named, _) := lookedAt start cwd arguments
  let configured ← start.readAll cwd named []
  let (paths, folders) := lookedAt configured cwd arguments
  let before ← configured.readAll cwd paths folders
  let elapsed := secondsText ((← IO.monoMsNow) - begun)
  let outcome := runProgram program before cwd arguments elapsed
  before.writeChanges outcome.tree
  IO.print outcome.output
  for entry in outcome.log do
    IO.eprintln s!"{entry.level.name} {entry.text}"
  for message in outcome.errors do
    IO.eprintln message
  return UInt32.ofNat outcome.exit
