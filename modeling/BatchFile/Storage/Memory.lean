import BatchFile.Storage.Basic
import BatchFile.Storage.Files
import BatchFile.Storage.Sparse

/-!
# Files in memory

A store maps paths to contents.  An open stream keeps the contents that the file had when it
was opened, may be moved anywhere, and finds no bytes behind the end.  A store can be told
to fail: its faults apply to every later call, also on streams that are open already.  Its files
are replaced as a whole; edits in place look for a file on a disk, where there is none.
-/

namespace BatchFile

/-- How the calls of a store fail.  Reads are not all interrupted, for they would be made again
for ever. -/
structure Faults where
  openFile? : Option IoKind
  fileSize? : Option IoKind
  seek? : Option IoKind
  read? : Option IoKind
  /-- The length reported for every file. -/
  reportedSize? : Option UInt64
  /-- The most bytes that one read gives. -/
  chunk? : Option Nat
  read?_ne : read? ≠ some .interrupted := by decide

/-- No faults. -/
def Faults.none : Faults where
  openFile? := .none
  fileSize? := .none
  seek? := .none
  read? := .none
  reportedSize? := .none
  chunk? := .none

/-- Files in memory. -/
structure MemoryStore where
  files : List (Path × SparseBytes)
  faults : Faults

/-- An open file in memory. -/
structure MemoryStream where
  contents : SparseBytes
  position : Nat

namespace MemoryStore

/-- The store without files. -/
def empty : MemoryStore := ⟨[], .none⟩

/-- The contents of the file at a path. -/
def find? (m : MemoryStore) (path : Path) : Option SparseBytes :=
  (m.files.find? fun f => f.1.same path).map Prod.snd

/-- A call that fails if there is a fault. -/
def withFault {s α : Type} (fault : Option IoKind) (x : Action s IoKind α) : Action s IoKind α :=
  match fault with
  | some k => .fail k
  | none => x

/-- The stream of the file at a path. -/
def openFile (path : Path) : Action MemoryStore IoKind MemoryStream := fun m =>
  withFault m.faults.openFile?
    (match m.find? path with
      | some contents => .ok ⟨contents, 0⟩
      | none => .fail .notFound) m

/-- The length of the file at a path. -/
def fileSize (path : Path) : Action MemoryStore IoKind UInt64 := fun m =>
  withFault m.faults.fileSize?
    (match m.find? path with
      | some contents => .ok (m.faults.reportedSize?.getD (UInt64.ofNat contents.length))
      | none => .fail .notFound) m

/-- Moves a stream. -/
def seek (position : UInt64) : Action (MemoryStream × MemoryStore) IoKind Unit := fun s =>
  withFault s.2.faults.seek?
    (.change fun s => ({ s.1 with position := position.toNat }, s.2)) s

/-- The bytes that one read of at most `n` bytes gives. -/
def available (stream : MemoryStream) (faults : Faults) (n : Nat) : Bytes :=
  ((stream.contents.drop stream.position).take (min n (faults.chunk?.getD n))).toBytes

/-- Reads from a stream. -/
def read (n : Nat) : Action (MemoryStream × MemoryStore) IoKind Bytes := fun s =>
  withFault s.2.faults.read?
    (fun (stream, m) =>
      let bytes := available stream m.faults n
      (.ok bytes, ({ stream with position := stream.position + bytes.length }, m))) s

theorem read_ne_interrupted (n : Nat) (x y : MemoryStream × MemoryStore) :
  read n x ≠ (.error .interrupted, y)
  := by
  intro h
  unfold read withFault at h
  cases hf : x.2.faults.read? with
  | none =>
    rw [hf] at h
    cases h
  | some k =>
    rw [hf] at h
    cases h
    exact x.2.faults.read?_ne hf

instance : Storage MemoryStore MemoryStream where
  openFile := openFile
  fileSize := fileSize
  seek := seek
  read := read
  interrupted_wf := ⟨fun x => ⟨x, fun y ⟨n, h⟩ => (read_ne_interrupted n x y h).elim⟩⟩
  release _ m := m
  report _ m := m

/-- The store with contents under a path. -/
def put (m : MemoryStore) (path : Path) (b : SparseBytes) : MemoryStore :=
  { m with files := (path, b) :: m.files.filter fun f => !f.1.same path }

/-- The store without the file at a path. -/
def erase (m : MemoryStore) (path : Path) : MemoryStore :=
  { m with files := m.files.filter fun f => !f.1.same path }

instance : Files MemoryStore where
  contents path m :=
    match m.find? path with
    | some b => .ok b.toBytes
    | none => .error .notFound
  write path b m := .ok (m.put path (.ofBytes b))
  edit _ _ _ := .error .notFound
  remove path m := if (m.find? path).isSome then .ok (m.erase path) else .error .notFound
  createDirectories _ m := (.ok (), m)

end MemoryStore

end BatchFile
