import BatchFile.Reader.Basic

/-!
# Sessions

A session is a storage in use by any number of readers, each under a name.  Its steps load
metadata, make readers, read, close readers and drop them; a reader that is dropped, or
whose name is given to another, is closed first.
-/

namespace BatchFile

/-- A storage and the readers that use it. -/
structure Session (σ τ : Type) where
  storage : σ
  readers : List (String × Reader τ)

namespace Session

variable {σ τ : Type}

/-- A session without readers. -/
def start (storage : σ) : Session σ τ := ⟨storage, []⟩

/-- The reader with the given name. -/
def reader? (s : Session σ τ) (name : String) : Option (Reader τ) :=
  (s.readers.find? fun r => r.1 = name).map Prod.snd

/-- The session with a reader under a name, in place of what had that name. -/
def put (s : Session σ τ) (name : String) (r : Reader τ) : Session σ τ :=
  { s with readers := (name, r) :: s.readers.filter fun r => r.1 ≠ name }

/-- The session without the reader of the given name. -/
def forget (s : Session σ τ) (name : String) : Session σ τ :=
  { s with readers := s.readers.filter fun r => r.1 ≠ name }

/-- What a session can be asked to do. -/
inductive Step where
  /-- Load the metadata of the file at a path under a base path. -/
  | load (base path : Path)
  /-- Make a reader. -/
  | make (name : String) (base : Path) (metadata : FileMetadata) (config : ReaderConfig)
  /-- Read the rows of a range. -/
  | read (name : String) (range : RowRange)
  /-- Read the rows of a range as records. -/
  | readRecords (name : String) (type : RowType) (range : RowRange)
  /-- Close a reader. -/
  | close (name : String)
  /-- Drop a reader. -/
  | drop (name : String)

/-- What a step gives. -/
inductive Answer where
  | done
  | metadata (m : FileMetadata)
  | windows (ws : List Window)
  | records (rs : List Record)
  | failed (e : Failure Error)
  | noSuchReader

variable [Storage σ τ]

/-- The session after the reader of the given name has been closed, if there is one. -/
def closeReader (s : Session σ τ) (name : String) : Session σ τ :=
  match s.reader? name with
  | none => s
  | some r =>
    match r.close s.storage with
    | (r, storage) => { s with storage := storage }.put name r

/-- The outcome of an action of the reader of the given name. -/
def withReader {α : Type} (s : Session σ τ) (name : String)
    (x : Action (Reader τ × σ) (Failure Error) α) (answer : α → Answer) :
    Answer × Session σ τ :=
  match s.reader? name with
  | none => (.noSuchReader, s)
  | some r =>
    match x (r, s.storage) with
    | (.ok a, (r, storage)) => (answer a, { s with storage := storage }.put name r)
    | (.error e, (r, storage)) => (.failed e, { s with storage := storage }.put name r)

variable [Ipc.Decoder]

/-- What a step gives and the session after it. -/
def perform (s : Session σ τ) : Step → Answer × Session σ τ
  | .load base path =>
    match FileMetadata.load base path s.storage with
    | (.ok m, storage) => (.metadata m, { s with storage := storage })
    | (.error e, storage) => (.failed e, { s with storage := storage })
  | .make name base metadata config =>
    (.done, (s.closeReader name).put name (.new base metadata config))
  | .read name range => s.withReader name (Reader.read range) .windows
  | .readRecords name type range =>
    s.withReader name (Reader.readRecords type range) .records
  | .close name => (.done, s.closeReader name)
  | .drop name => (.done, (s.closeReader name).forget name)

/-- What a list of steps gives and the session after it. -/
def run (s : Session σ τ) : List Step → List Answer × Session σ τ
  | [] => ([], s)
  | step :: steps =>
    match s.perform step with
    | (answer, s) =>
      match run s steps with
      | (answers, s) => (answer :: answers, s)

end Session

end BatchFile
