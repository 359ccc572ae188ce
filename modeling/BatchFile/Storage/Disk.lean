import BatchFile.Storage.Basic
import BatchFile.Storage.Files
import BatchFile.Storage.Sparse
import BatchFile.Word

/-!
# Files on a disk

A disk has numbered directories and numbered files.  A name in a directory stands for a
directory or for a file; replacing the contents of a file keeps its number, and a file whose
name has been removed keeps its contents.  An open stream refers to a file by its number, so
it sees what is written to the file after the opening.  Files may have holes.

A path is followed name by name, from the current directory or from the root of the disk.
The current directory lies in another one, so a path may lead out of it.
-/

namespace BatchFile

/-- What a name stands for. -/
inductive Node where
  | directory (number : Nat)
  | file (number : Nat)
deriving DecidableEq

/-- A directory. -/
structure Directory where
  /-- The number of the directory that it lies in, its own if it lies in none. -/
  parent : Nat
  names : List (String × Node)

/-- The directories and the contents of the files, by number. -/
structure Disk where
  directories : Array Directory
  files : List SparseBytes

/-- An open file or directory of a disk. -/
structure DiskStream where
  node : Node
  position : Nat

namespace Disk

/-- The number of the root directory. -/
def root : Nat := 0

/-- The number of the directory that the current directory lies in. -/
def enclosing : Nat := 1

/-- The number of the current directory. -/
def current : Nat := 2

/-- The disk without files, on which no directory has a name. -/
def empty : Disk := ⟨#[⟨root, []⟩, ⟨root, []⟩, ⟨enclosing, []⟩], []⟩

/-- The directory with a number. -/
def directory (d : Disk) (number : Nat) : Directory :=
  d.directories.getD number ⟨number, []⟩

/-- The disk with a name in a directory standing for something. -/
def withName (number : Nat) (name : String) (node : Node) (d : Disk) : Disk :=
  { d with directories := d.directories.modify number fun directory =>
      { directory with names := (name, node) :: directory.names } }

/-- The disk without a name in a directory. -/
def withoutName (number : Nat) (name : String) (d : Disk) : Disk :=
  { d with directories := d.directories.modify number fun directory =>
      { directory with names := directory.names.filter fun e => e.1 ≠ name } }

/-- The most bytes that a name may have. -/
def maxNameLength : Nat := 255

/-- The most bytes that a path may have. -/
def maxPathLength : Nat := 4095

/-- What a name leads to. -/
def follow (d : Disk) (node : Node) (name : String) : Except IoKind Node :=
  match node with
  | .file _ => .error .notADirectory
  | .directory number =>
    if name = "" || name = "." then .ok node
    else if name = ".." then .ok (.directory (d.directory number).parent)
    else if maxNameLength < name.utf8ByteSize then .error .invalidFilename
    else
      match (d.directory number).names.lookup name with
      | some node => .ok node
      | none => .error .notFound

/-- The problem of a path that nothing can have, if it has one. -/
def pathProblem? (path : Path) : Option IoKind :=
  if path = "" then some .notFound
  else if path.toList.contains '\x00' then some .invalidInput
  else if maxPathLength < path.utf8ByteSize then some .invalidFilename
  else none

/-- What the given names of a path lead to, one after the other. -/
def walk (d : Disk) (path : Path) (names : List String) : Except IoKind Node :=
  match pathProblem? path with
  | some problem => .error problem
  | none => names.foldlM d.follow (.directory (if path.isAbsolute then root else current))

/-- What a path leads to. -/
def lookup (d : Disk) (path : Path) : Except IoKind Node :=
  d.walk path path.parts

/-- The length that a directory is said to have. -/
def directorySize : UInt64 := 4096

/-- The contents of a file. -/
def contentsOf (d : Disk) (number : Nat) : SparseBytes :=
  d.files.getD number (.ofBytes [])

instance : Storage Disk DiskStream where
  openFile path d :=
    match d.lookup path with
    | .ok node => (.ok ⟨node, 0⟩, d)
    | .error e => (.error e, d)
  fileSize path d :=
    match d.lookup path with
    | .ok (.directory _) => (.ok directorySize, d)
    | .ok (.file number) => (.ok (UInt64.ofNat (d.contentsOf number).length), d)
    | .error e => (.error e, d)
  seek position s :=
    if Word.isSigned position then (.ok (), ({ s.1 with position := position.toNat }, s.2))
    else (.error .invalidInput, s)
  read n s :=
    match s.1.node with
    | .directory _ => (.error .isADirectory, s)
    | .file number =>
      let bytes := (((s.2.contentsOf number).drop s.1.position).take n).toBytes
      (.ok bytes, ({ s.1 with position := s.1.position + bytes.length }, s.2))
  interrupted_wf := by
    refine ⟨fun x => ⟨x, ?_⟩⟩
    rintro y ⟨n, h⟩
    cases hx : x.1.node <;> simp [hx] at h
  release _ d := d
  report _ d := d

/-- The parts of a path up to the last one that is not empty. -/
def namesOf (path : Path) : List String :=
  (path.parts.reverse.dropWhile (· = "")).reverse

/-- Whether a path can only lead to a directory: it ends in a slash or in a name that every
directory has. -/
def isDirectoryPath (path : Path) : Bool :=
  path.parts.getLast?.all fun name => name = "" || name = "." || name = ".."

/-- The number of the directory that the last name of a path is looked up in, and that name,
if the path has one. -/
def lastName (d : Disk) (path : Path) : Except IoKind (Nat × Option String) := do
  match ← d.walk path (namesOf path).dropLast with
  | .directory number => return (number, (namesOf path).getLast?)
  | .file _ => throw .notADirectory

/-- The number of the directory that a path puts a file into, and the name of the file. -/
def place (d : Disk) (path : Path) : Except IoKind (Nat × String) := do
  match ← d.lastName path with
  | (_, none) => throw .isADirectory
  | (number, some name) =>
    if isDirectoryPath path then throw .isADirectory
    if maxNameLength < name.utf8ByteSize then throw .invalidFilename
    return (number, name)

/-- The disk with contents in the file at a path. -/
def write (path : Path) (b : Bytes) (d : Disk) : Except IoKind Disk := do
  let (number, name) ← d.place path
  match (d.directory number).names.lookup name with
  | some (.directory _) => throw .isADirectory
  | some (.file file) => return { d with files := d.files.set file (.ofBytes b) }
  | none =>
    let stored : Disk := { d with files := d.files ++ [.ofBytes b] }
    return stored.withName number name (.file d.files.length)

/-- The disk after an edit of the file at a path. -/
def edit (path : Path) (edit : FileEdit) (d : Disk) : Except IoKind Disk := do
  match ← d.lookup path with
  | .directory _ => throw .isADirectory
  | .file number =>
    let contents := d.contentsOf number
    let change ← edit contents.length
    return { d with files := d.files.set number (contents.apply change) }

/-- The disk without the name at a path, which must be that of a file. -/
def remove (path : Path) (d : Disk) : Except IoKind Disk := do
  match ← d.lookup path with
  | .directory _ => throw .isADirectory
  | .file _ =>
    let (number, name) ← d.place path
    return d.withoutName number name

/-- The disk with a new directory at a path. -/
def createDirectory (path : Path) (d : Disk) : Except IoKind Disk := do
  match ← d.lastName path with
  | (_, none) => throw .alreadyExists
  | (number, some name) =>
    if name = "." || name = ".." then throw .alreadyExists
    if maxNameLength < name.utf8ByteSize then throw .invalidFilename
    if ((d.directory number).names.lookup name).isSome then throw .alreadyExists
    let created : Disk := { d with directories := d.directories.push ⟨number, []⟩ }
    return created.withName number name (.directory d.directories.size)

/-- The disk with a directory at a path, which may be there already. -/
def ensureDirectory (path : Path) (d : Disk) : Except IoKind Disk :=
  match d.createDirectory path with
  | .ok d => .ok d
  | .error e =>
    match d.lookup path with
    | .ok (.directory _) => .ok d
    | _ => .error e

/-- Sees to it that there is a directory at the first of the given paths.  If it cannot be
created because something on the way is missing, there must be one at the next path first. -/
def ensureDirectories : List Path → Disk → Except IoKind Unit × Disk
  | [], d => (.ok (), d)
  | path :: parents, d =>
    match d.ensureDirectory path with
    | .ok d => (.ok (), d)
    | .error .notFound =>
      match ensureDirectories parents d with
      | (.error e, d) => (.error e, d)
      | (.ok (), d) =>
        match d.ensureDirectory path with
        | .ok d => (.ok (), d)
        | .error e => (.error e, d)
    | .error e => (.error e, d)

instance : Files Disk where
  contents path d := do
    match ← d.lookup path with
    | .directory _ => throw .isADirectory
    | .file number => return (d.contentsOf number).toBytes
  write := write
  edit := edit
  remove := remove
  createDirectories path :=
    ensureDirectories ((path.ancestors path.parts.length).filter (· ≠ ""))

end Disk

end BatchFile
