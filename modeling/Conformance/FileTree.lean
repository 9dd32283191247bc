import Conformance.OrderedMap
import Conformance.Path
import Conformance.Text.Order

/-!
# File trees

A tree of files and directories, and a working directory in it that relative paths start from.  The
working directory may be removed like any other; relative paths then lead nowhere.

**Views.**
* `FileTree.absolute?` names what a path speaks of, without looking whether it is there;
* `FileTree.find?` follows a path step by step, each step from a directory;
* `FileTree.read?`, `FileTree.names?` and `FileTree.isFile` say what is found there.

**Changes.**  `makeDirectory` and `write` make the directories above as well, `remove` takes away
what is below too.

**Results.**
* `isFile_iff`, `read?_eq_some_iff`: files are what can be read;
* `absolute?_eq_none_iff`: only relative paths can lack a directory to start from.
-/

namespace Conformance

/-- What there is under a path. -/
inductive FileEntry
  | file (bytes : List UInt8)
  | directory
deriving DecidableEq, Repr

namespace FileEntry

/-- Whether the entry is a directory. -/
def isDirectory : FileEntry → Bool
  | .directory => true
  | .file _ => false

/-- The content of a file. -/
def bytes? : FileEntry → Option (List UInt8)
  | .file bytes => some bytes
  | .directory => none

end FileEntry

/-- The entries by normalized absolute path, and the working directory. -/
structure FileTree where
  entries : OrderedMap String FileEntry
  /-- None, once it has been removed. -/
  workingDirectory : Option String

namespace FileTree

section Views

/-- The root of every tree. -/
def root : String := "/"

/-- The normalized absolute path of a path, if it has a directory to start from. -/
def absolute? (t : FileTree) (path : String) : Option String :=
  if Path.isAbsolute path then some (Path.normalize path)
  else t.workingDirectory.map fun here => Path.absolute here path

/-- What there is under a normalized absolute path. -/
def entryAt (t : FileTree) (path : String) : Option FileEntry :=
  t.entries.get? path

/-- Whether there is a directory under a normalized absolute path. -/
def isDirectoryAt (t : FileTree) (path : String) : Bool :=
  (t.entryAt path).any FileEntry.isDirectory

/-- Goes one segment on from a place, which has to be a directory. -/
def step (t : FileTree) (place : Option String) (segment : String) : Option String :=
  place.bind fun here =>
    if !t.isDirectoryAt here then none
    else if segment = "" ∨ segment = "." then some here
    else if segment = ".." then some (Path.parent here)
    else some (Path.join here segment)

/-- The normalized absolute path that a path leads to; the empty path leads nowhere. -/
def follow (t : FileTree) (path : String) : Option String :=
  if path.isEmpty then none
  else
    let start := if Path.isAbsolute path then some root else t.workingDirectory
    (Path.segments path).foldl t.step start

/-- What a path leads to. -/
def find? (t : FileTree) (path : String) : Option FileEntry :=
  (t.follow path).bind t.entryAt

/-- Whether a path leads to a file. -/
def isFile (t : FileTree) (path : String) : Bool :=
  (t.find? path).any fun e => !e.isDirectory

/-- The content of the file that a path leads to. -/
def read? (t : FileTree) (path : String) : Option (List UInt8) :=
  (t.find? path).bind FileEntry.bytes?

/-- Whether a normalized path lies directly in a directory. -/
def liesIn (dir path : String) : Bool :=
  path != root && Path.parent path == dir

/-- The names directly in the directory that a path leads to, in order. -/
def names? (t : FileTree) (path : String) : Option (List String) :=
  (t.follow path).bind fun dir =>
    if t.isDirectoryAt dir then
      some (Text.sorted ((t.entries.keys.filter (liesIn dir)).map Path.name))
    else none

end Views

section Changes

/-- A normalized path and the directories above it but for the root, the lowest first. -/
def lineage : Nat → String → List String
  | 0, _ => []
  | fuel + 1, path =>
      if Path.parent path = path ∨ path.isEmpty then [] else path :: lineage fuel (Path.parent path)

/-- The tree with a directory under a normalized absolute path, if there was nothing. -/
def addDirectory (t : FileTree) (path : String) : FileTree :=
  if t.entries.contains path then t else { t with entries := t.entries.insert path .directory }

/-- The tree with a directory under a normalized absolute path, and with those above it. -/
def addDirectories (t : FileTree) (path : String) : FileTree :=
  (lineage path.length path).foldr (fun p t => t.addDirectory p) t

/-- The tree with a directory, and with those above it. -/
def makeDirectory (t : FileTree) (path : String) : FileTree :=
  (t.absolute? path).elim t t.addDirectories

/-- The tree with a file of this content, and with the directories above it. -/
def write (t : FileTree) (path : String) (bytes : List UInt8) : FileTree :=
  (t.absolute? path).elim t fun path =>
    let t := t.addDirectories (Path.parent path)
    { t with entries := t.entries.insert path (.file bytes) }

/-- The tree without what is under a path and below it. -/
def remove (t : FileTree) (path : String) : FileTree :=
  (t.absolute? path).elim t fun path =>
    let stays (p : String) : Bool := p != path && !p.startsWith (path ++ "/")
    { entries := t.entries.filterKeys stays
      workingDirectory := t.workingDirectory.filter stays }

/-- The tree that holds the root and a working directory. -/
def empty (workingDirectory : String) : FileTree :=
  let t : FileTree := ⟨OrderedMap.empty.insert root .directory, some workingDirectory⟩
  t.makeDirectory workingDirectory

end Changes

section Lemmas

theorem isFile_iff {t : FileTree} {path : String} :
    t.isFile path = true ↔ ∃ bytes, t.find? path = some (.file bytes) := by
  rw [isFile, Option.any_eq_true]
  constructor
  · rintro ⟨e, he, hfile⟩
    cases e with
    | file bytes => exact ⟨bytes, he⟩
    | directory => cases hfile
  · rintro ⟨bytes, hbytes⟩
    exact ⟨.file bytes, hbytes, rfl⟩

theorem read?_eq_some_iff {t : FileTree} {path : String} {bytes : List UInt8} :
    t.read? path = some bytes ↔ t.find? path = some (.file bytes) := by
  rw [read?, Option.bind_eq_some_iff]
  constructor
  · rintro ⟨e, he, hbytes⟩
    cases e with
    | file bytes' =>
        cases hbytes
        exact he
    | directory => cases hbytes
  · intro h
    exact ⟨.file bytes, h, rfl⟩

theorem absolute?_eq_none_iff {t : FileTree} {path : String} :
    t.absolute? path = none ↔ Path.isAbsolute path = false ∧ t.workingDirectory = none := by
  rw [absolute?]
  cases Path.isAbsolute path with
  | true => simp
  | false => simp

end Lemmas

end FileTree
end Conformance
