import CircuitBench.Files.Path
import CircuitBench.Files.Error
import CircuitBench.Text.Utf8

/-!
# Trees of files

A `Tree` has files, folders and symbolic links under one root, as a value. Some files may not be
opened and some folders may not be listed. `Tree.locate` follows a path name by name, and links up
to a fixed number. Reading leaves the tree as it is (`Tree.readBytes`, `Tree.names`); writing gives
the tree after the change (`Tree.writeFile`, `Tree.createFolders`).
-/

namespace CircuitBench

/-- The names on the way from the root. -/
abbrev Location : Type := List String

/-- What stands at a place in a tree. -/
inductive Entry where
  | file (bytes : List UInt8)
  /-- A file that may not be opened. -/
  | locked
  | folder
  /-- A folder that may be entered and not listed. -/
  | unlisted
  | link (target : String)
deriving DecidableEq, Repr

/-- Whether an entry is a file, be it one that may be opened or not. -/
def Entry.isRegular : Entry → Bool
  | .file _ => true
  | .locked => true
  | .folder => false
  | .unlisted => false
  | .link _ => false

/-- Whether an entry is a folder, be it one that may be listed or not. -/
def Entry.isFolder : Entry → Bool
  | .file _ => false
  | .locked => false
  | .folder => true
  | .unlisted => true
  | .link _ => false

/-- The entries of a tree below its root, which is a folder. -/
structure Tree where
  entries : List (Location × Entry)
deriving Repr

/-- What a path leads to: an entry, or a free name in a folder. -/
inductive Spot where
  | found (loc : Location) (entry : Entry)
  | vacant (folder : Location) (name : String)
deriving DecidableEq, Repr

/-- What may come of a file operation. -/
abbrev FileResult (α : Type) : Type := Except FileError α

namespace Tree

/-- The entry at a place. -/
def entry? (t : Tree) (loc : Location) : Option Entry :=
  if loc.isEmpty then some .folder else t.entries.lookup loc

/-- The tree with an entry put at a place, instead of what was there. -/
def put (t : Tree) (loc : Location) (entry : Entry) : Tree :=
  ⟨t.entries.filter (·.1 != loc) ++ [(loc, entry)]⟩

/-- The most bytes of one name. -/
def nameLimit : Nat := 255

/-- The most bytes of a path, the final mark included. -/
def pathLimit : Nat := 4096

/-- The most links followed on one path. -/
def linkLimit : Nat := 40

/-- The names to follow on a path, dots included. A slash at the end asks for a folder, as a dot
does. -/
def steps (path : String) : List String :=
  let pieces := (Path.pieces path.toList).filter (!List.isEmpty ·)
  let last := if path.toList.getLast? == some '/' then ["."] else []
  pieces.map String.ofList ++ last

/-- The folder at a place that was entered. -/
def folderAt (t : Tree) (loc : Location) : Entry :=
  if t.entry? loc = some .unlisted then .unlisted else .folder

/-- Follows names from a folder. `follow` goes on behind a link; at the end of the path a link is
followed only if asked for. -/
def walkNames (t : Tree) (follow : Location → List String → FileResult Spot) (followLast : Bool) :
    Location → List String → FileResult Spot
  | loc, [] => .ok (.found loc (t.folderAt loc))
  | loc, name :: rest =>
    if name = "." then walkNames t follow followLast loc rest
    else if name = ".." then walkNames t follow followLast loc.dropLast rest
    else if nameLimit < name.utf8ByteSize then .error .nameTooLong
    else
      let here := loc ++ [name]
      match t.entry? here with
      | none => if rest.isEmpty then .ok (.vacant loc name) else .error .notFound
      | some .folder => walkNames t follow followLast here rest
      | some .unlisted => walkNames t follow followLast here rest
      | some (.file bytes) =>
        if rest.isEmpty then .ok (.found here (.file bytes)) else .error .notAFolder
      | some .locked => if rest.isEmpty then .ok (.found here .locked) else .error .notAFolder
      | some (.link target) =>
        if rest.isEmpty && !followLast then .ok (.found here (.link target))
        else follow (if Path.isAbsolute target.toList then [] else loc) (steps target ++ rest)

/-- Follows names from a folder, and at most the given number of links. -/
def walk (t : Tree) (followLast : Bool) : Nat → Location → List String → FileResult Spot
  | 0 => t.walkNames (fun _ _ => .error .tooManyLinks) followLast
  | links + 1 => t.walkNames (t.walk followLast links) followLast

/-- The folder from which a path is followed. -/
def start (cwd : Location) (path : String) : Location :=
  if Path.isAbsolute path.toList then [] else cwd

/-- The check that a path can be asked for at all. -/
def checkPath (path : String) : FileResult Unit :=
  if path.toList.contains '\x00' then .error .nulByte
  else if path.isEmpty then .error .notFound
  else if pathLimit ≤ path.utf8ByteSize then .error .nameTooLong
  else .ok ()

/-- The place that a path leads to from a folder. -/
def locate (t : Tree) (cwd : Location) (path : String) (followLast : Bool) : FileResult Spot := do
  checkPath path
  t.walk followLast linkLimit (start cwd path) (steps path)

/-- The entry that a path leads to, links followed, with its place. -/
def stat (t : Tree) (cwd : Location) (path : String) : FileResult (Location × Entry) := do
  match ← t.locate cwd path true with
  | .found loc entry => return (loc, entry)
  | .vacant _ _ => throw .notFound

/-- Whether a path leads to anything. -/
def pathExists (t : Tree) (cwd : Location) (path : String) : Bool :=
  match t.stat cwd path with
  | .ok _ => true
  | .error _ => false

/-- Whether a path leads to a folder. -/
def isFolder (t : Tree) (cwd : Location) (path : String) : Bool :=
  match t.stat cwd path with
  | .ok (_, entry) => entry.isFolder
  | .error _ => false

/-- The bytes of the file that a path leads to. -/
def readBytes (t : Tree) (cwd : Location) (path : String) : FileResult (List UInt8) := do
  match ← t.stat cwd path with
  | (_, .file bytes) => return bytes
  | (_, .locked) => throw .permissionDenied
  | (_, .folder) => throw .isAFolder
  | (_, .unlisted) => throw .permissionDenied
  | (_, .link _) => throw .tooManyLinks

/-- The text of the file that a path leads to. -/
def readText (t : Tree) (cwd : Location) (path : String) : FileResult (List Char) := do
  match Utf8.decode (← t.readBytes cwd path) with
  | .ok cs => return cs
  | .error _ => throw .notText

/-- The name of an entry that stands directly in a folder. -/
def childName? (folder loc : Location) : Option String :=
  match loc.getLast? with
  | some name => if loc.dropLast == folder then some name else none
  | none => none

/-- The names in a folder in the order of code points. -/
def names (t : Tree) (folder : Location) : List String :=
  (t.entries.filterMap fun (loc, _) => childName? folder loc).mergeSort fun a b => decide (a ≤ b)

/-- The tree with a file written to a path; a file that is there is replaced. -/
def writeFile (t : Tree) (cwd : Location) (path : String) (bytes : List UInt8) :
    FileResult Tree := do
  checkPath path
  let names := steps path
  if names.getLast? == some "." then
    let _ ← t.walk true linkLimit (start cwd path) (names.dropLast.dropLast ++ ["."])
    throw .isAFolder
  else
    match ← t.walk true linkLimit (start cwd path) names with
    | .vacant folder name => return t.put (folder ++ [name]) (.file bytes)
    | .found loc (.file _) => return t.put loc (.file bytes)
    | .found _ .locked => throw .permissionDenied
    | .found _ _ => throw .isAFolder

/-- The tree with a new folder at a path. -/
def createFolder (t : Tree) (cwd : Location) (path : String) : FileResult Tree := do
  checkPath path
  let names := steps path
  let trailing := path.toList.getLast? == some '/'
  match ← t.walk false linkLimit (start cwd path) (if trailing then names.dropLast else names) with
  | .vacant folder name => return t.put (folder ++ [name]) .folder
  | .found _ _ => throw .alreadyExists

/-- The tree with a folder at the last of some nested paths, outermost first, and at all before. -/
def createEach (t : Tree) (cwd : Location) : List String → FileResult Tree
  | [] => .ok t
  | path :: others =>
    match t.createFolder cwd path with
    | .ok extended => extended.createEach cwd others
    | .error cause => if t.isFolder cwd path then t.createEach cwd others else .error cause

/-- The tree with folders made for the paths that are given innermost first: the first that can be
made or is there ends the search, and those before it follow. -/
def createFrom (t : Tree) (cwd : Location) (below : List String) : List String → FileResult Tree
  | [] => t.createEach cwd below
  | path :: outer =>
    match t.createFolder cwd path with
    | .ok extended => extended.createEach cwd below
    | .error .notFound => t.createFrom cwd (path :: below) outer
    | .error cause => if t.isFolder cwd path then t.createEach cwd below else .error cause

/-- A path and the paths around it, innermost first, without the empty one; at most `fuel` of
them. -/
def ancestors : Nat → List Char → List String
  | 0, _ => []
  | fuel + 1, path =>
    if path.isEmpty then []
    else String.ofList path :: match Path.parent? path with
      | some parent => ancestors fuel parent
      | none => []

/-- The tree with a folder at a path and at all paths around it. -/
def createFolders (t : Tree) (cwd : Location) (path : String) : FileResult Tree :=
  t.createFrom cwd [] (ancestors (path.length + 1) path.toList)

/-- The tree with all folders around a path. -/
def createParent (t : Tree) (cwd : Location) (path : String) : FileResult Tree :=
  match Path.parent? path.toList with
  | some parent => t.createFolders cwd (String.ofList parent)
  | none => .ok t

end Tree

end CircuitBench
