import BatchFile.ContextError
import BatchFile.FileMetadata
import BatchFile.Ipc.Encode
import BatchFile.Storage.Files

/-!
# Writing batch files

A builder holds a schema and batches and lays them out as a batch file: the magic word, the
streams of the batches end to end, and the footer with its trailer.
-/

namespace BatchFile

/-- A batch file that is to be written. -/
structure FileBuilder where
  schema : Schema
  batches : List RecordBatch

namespace FileBuilder

/-- The footer of a file and its trailer, behind `front`. -/
def appendFooter (front : Bytes) (schema : Schema) (footer : FileFooter) : Bytes :=
  front
    ++ StoredFooter.encode ⟨Ipc.encodeSchemaStream schema, footer⟩
    ++ Bytes.ofWord (UInt64.ofNat front.length)
    ++ Layout.magic

/-- The streams of batches, and for each batch its summary, where the first stream starts at
`offset`. -/
def layOut (schema : Schema) (offset : Nat) : List RecordBatch → Bytes × List BatchSummary
  | [] => ([], [])
  | b :: bs =>
    let stream := Ipc.encodeBatchStream schema b
    let rest := layOut schema (offset + stream.length) bs
    (stream ++ rest.1, ⟨UInt64.ofNat offset, UInt64.ofNat b.rowCount⟩ :: rest.2)

/-- The contents of the file and its footer. -/
def toBytes (builder : FileBuilder) : Bytes × FileFooter :=
  let laidOut := layOut builder.schema Layout.magic.length builder.batches
  let footer : FileFooter := ⟨laidOut.2⟩
  (appendFooter (Layout.magic ++ laidOut.1) builder.schema footer, footer)

variable {σ : Type} [Files σ]

/-- Creates the directory that the file at a path lies in. -/
def createParent (path : Path) (s : σ) : Except ContextError Unit × σ :=
  match path.parent? with
  | none => (.ok (), s)
  | some parent =>
    if parent = "" then (.ok (), s)
    else
      match Files.createDirectories parent s with
      | (r, s) => (during ("mkdir -p " ++ parent) .io r, s)

/-- Writes the file at a path, in a directory that is created if it is not there. -/
def write (builder : FileBuilder) (path : Path) : Action σ ContextError FileFooter := do
  createParent path
  let (bytes, footer) := builder.toBytes
  fun s =>
    match during ("create " ++ path) .io (Files.write path bytes s) with
    | .ok s => (.ok footer, s)
    | .error e => (.error e, s)

/-- Writes the file at a path under a base path and gives its metadata. -/
def writeMetadata (builder : FileBuilder) (base name : Path) :
    Action σ ContextError FileMetadata := do
  let footer ← builder.write (Path.join base name)
  return .ofFooter name footer (some builder.schema)

/-- Writes a file that has no batches, whatever its footer says. -/
def writeIndexOnly (path : Path) (schema : Schema) (footer : FileFooter) :
    Action σ ContextError Unit := fun s =>
  match during ("write " ++ path) .io
      (Files.write path (appendFooter Layout.magic schema footer) s) with
  | .ok s => (.ok (), s)
  | .error e => (.error e, s)

end FileBuilder

end BatchFile
