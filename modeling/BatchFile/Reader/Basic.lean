import BatchFile.FileMetadata
import BatchFile.Reader.Plan
import BatchFile.ReaderConfig
import BatchFile.ReadStats

/-!
# The range reader

A reader serves any number of row ranges of one file.  It opens the file at the first read
and keeps the stream until it is closed.  A read checks its range first; then it decodes the
batches of the row plan, in order, and cuts a window from each.  A read without rows gives
one window over no rows, with the schema of the metadata or else of the footer, which is
read once.  A read that fails gives nothing and leaves the counters alone.
-/

namespace BatchFile

/-- The stream of a reader. -/
inductive StreamState (τ : Type) where
  | unopened
  | opened (stream : τ)
  | closed

/-- A reader of one file. -/
structure Reader (τ : Type) where
  /-- The path of the file. -/
  path : Path
  metadata : FileMetadata
  config : ReaderConfig
  state : StreamState τ
  /-- The schema read from the footer, if it has been read. -/
  footerSchema? : Option Schema
  stats : ReadStats

namespace Reader

variable {σ τ : Type}

/-- A reader of the file with the given metadata under a base path, which opens nothing. -/
def new (base : Path) (metadata : FileMetadata) (config : ReaderConfig) : Reader τ where
  path := Path.join base metadata.path
  metadata := metadata
  config := config
  state := .unopened
  footerSchema? := none
  stats := .zero

/-- Whether the reader holds a stream. -/
def isOpen (r : Reader τ) : Bool :=
  match r.state with
  | .opened _ => true
  | _ => false

/-- Whether the reader has been closed. -/
def isClosed (r : Reader τ) : Bool :=
  match r.state with
  | .closed => true
  | _ => false

/-- The check that a file with so many rows has the rows of a range.  An empty range at the
start of an empty file is allowed. -/
def checkRange (recordCount : UInt64) (range : RowRange) : Except (Failure Error) Unit :=
  if (range.start = 0 && recordCount = 0) || range.start < recordCount then
    match Word.add? range.start range.limit with
    | some stop =>
      if stop ≤ recordCount then .ok ()
      else .error (.invalidRange range.start range.limit recordCount)
    | none => .error (.invalidRange range.start range.limit recordCount)
  else .error (.invalidStart range.start recordCount)

variable [Storage σ τ]

/-! ### Opening -/

/-- The check of an open file that the configuration asks for. -/
def checkOpened (path : Path) (config : ReaderConfig) : Action (τ × σ) (Failure Error) Unit := do
  if config.validateFraming then
    let size ← Framing.onFile path (.onSecond (Storage.fileSize path))
    let _ ← Framing.validate path size

/-- The stream of the file at a path, checked as the configuration asks for. -/
def openStream (path : Path) (config : ReaderConfig) : Action σ (Failure Error) τ := do
  .change (Storage.report (.opening path config.validateFraming))
  let stream ← Framing.onFile path (Storage.openFile path)
  Storage.keeping stream (checkOpened path config)

/-- The stream of a reader, opened if it has not been. -/
def ensureOpen (r : Reader τ) : Action σ (Failure Error) τ :=
  match r.state with
  | .opened stream => .ok stream
  | .closed => .fail (.closed r.path)
  | .unopened => openStream r.path r.config

/-! ### Reading from an open stream -/

/-- The bytes of a stream from where it is. -/
def source : Ipc.Source (τ × σ) := Storage.readExact

/-- The window over a decoded batch that a selection asks for. -/
def cut (path : Path) (config : ReaderConfig) (x : Selection) (batch : RecordBatch) :
    Except (Failure Error) Window :=
  if config.verifyRowCounts && batch.rowCount ≠ x.summary.recordCount.toNat then
    .error (.dataFormat path (.rowCount x.summary.offset batch.rowCount x.summary.recordCount))
  else
    match Window.ofRange? batch x.start.toNat x.stop.toNat with
    | some w => .ok w
    | none =>
      .error (.dataFormat path
        (.missingBatchRows x.summary.offset x.start.toNat x.stop.toNat))

/-- The outcome of a plan that ends in the given way. -/
def checkEnd (path : Path) (range : RowRange) : PlanEnd → Except (Failure Error) Unit
  | .complete => .ok ()
  | .tooManyRows offset => .error (.dataFormat path (.countsTooLargeAt offset))
  | .missing covered remaining =>
    .error (.dataFormat path (.missingRows covered remaining range.limit range.start))

/-- What a read gives: the windows, the work done, and the schema of the footer if it is
known now. -/
structure Answer where
  windows : List Window
  work : ReadStats
  footerSchema? : Option Schema

/-- The records of the selected rows of all windows. -/
def recordsOf (t : RowType) (windows : List Window) : Except (Failure Error) (List Record) :=
  match windows.mapM (Window.toRecords t) with
  | .ok records => .ok records.flatten
  | .error e => .error (.rows e)

section Reading

variable [Ipc.Decoder]

/-- The batch whose stream starts at an offset. -/
def decodeBatch (path : Path) (offset : UInt64) : Action (τ × σ) (Failure Error) RecordBatch := do
  Framing.onFile path (Storage.seek offset)
  let schema ← (Ipc.readSchema source).mapError fun e => .dataFormat path (.noStream offset e)
  let batch? ← (Ipc.readBatch source schema).mapError fun e =>
    .dataFormat path (.malformedBatch offset e)
  match batch? with
  | some batch => return batch
  | none => Framing.reject path (.noBatch offset)

/-- The windows that the selections ask for. -/
def readSelections (path : Path) (config : ReaderConfig) :
    List Selection → Action (τ × σ) (Failure Error) (List Window)
  | [] => .ok []
  | x :: xs => do
    let batch ← decodeBatch path x.summary.offset
    let window ← .ofExcept (cut path config x batch)
    let windows ← readSelections path config xs
    return window :: windows

/-- The schema in the footer of the file at a path, read unless it is known already. -/
def footerSchema (path : Path) (known? : Option Schema) : Action (τ × σ) (Failure Error) Schema :=
  match known? with
  | some schema => .ok schema
  | none => do
    let size ← Framing.onFile path (.onSecond (Storage.fileSize path))
    let (schema, _) ← Framing.readFooter path size
    Storage.note (.footerSchemaRead path)
    return schema

/-- The answer to a read without rows. -/
def answerEmpty (r : Reader τ) : Action (τ × σ) (Failure Error) Answer :=
  let work : ReadStats := { ReadStats.zero with reads := 1, emptyResults := 1 }
  match r.metadata.schema? with
  | some schema => .ok ⟨[.empty schema], work, r.footerSchema?⟩
  | none => do
    let schema ← footerSchema r.path r.footerSchema?
    return ⟨[.empty schema], work, some schema⟩

/-- The answer to a read with the given windows of the batches. -/
def answerWindows (r : Reader τ) (range : RowRange) (plan : RowPlan) (windows : List Window) :
    Action (τ × σ) (Failure Error) Answer :=
  if windows = [] then answerEmpty r
  else
    .ok {
      windows := windows
      work := {
        reads := 1
        batchesDecoded := UInt64.ofNat windows.length
        batchesSkipped := plan.skipped
        rowsReturned := range.limit
        emptyResults := 0 }
      footerSchema? := r.footerSchema? }

/-- The answer to a read of a range on an open stream. -/
def readOpened (r : Reader τ) (range : RowRange) : Action (τ × σ) (Failure Error) Answer := do
  let plan := RowPlan.ofRange r.metadata.footer range
  let windows ← readSelections r.path r.config plan.selections
  .ofExcept (checkEnd r.path range plan.ending)
  let answer ← answerWindows r range plan windows
  Storage.note (.rangeRead r.path range.start range.limit
    (UInt64.ofNat answer.windows.length) answer.work.batchesDecoded answer.work.batchesSkipped)
  return answer

/-! ### The operations of a reader -/

/-- Reads the rows of a range. -/
def read (range : RowRange) : Action (Reader τ × σ) (Failure Error) (List Window) := fun (r, s) =>
  match checkRange r.metadata.recordCount range with
  | .error e => (.error e, (r, s))
  | .ok () =>
    match ensureOpen r s with
    | (.error e, s) => (.error e, (r, s))
    | (.ok stream, s) =>
      match readOpened r range (stream, s) with
      | (.error e, (stream, s)) => (.error e, ({ r with state := .opened stream }, s))
      | (.ok answer, (stream, s)) =>
        (.ok answer.windows,
          ({ r with
              state := .opened stream
              footerSchema? := answer.footerSchema?
              stats := r.stats.merge answer.work }, s))

/-- Reads the rows of a range as records.  The read counts even if a row cannot be
converted. -/
def readRecords (t : RowType) (range : RowRange) :
    Action (Reader τ × σ) (Failure Error) (List Record) := do
  let windows ← read range
  .ofExcept (recordsOf t windows)

end Reading

/-- Gives the stream back, if there is one; the reader cannot be used any more. -/
def close (r : Reader τ) (s : σ) : Reader τ × σ :=
  match r.state with
  | .opened stream =>
    ({ r with state := .closed }, Storage.report (.closed r.path) (Storage.release stream s))
  | _ => ({ r with state := .closed }, s)

end Reader

end BatchFile
