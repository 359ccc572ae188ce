import BatchFile.Framing

/-!
# File metadata

What a reader knows about a file before it opens it: where the file is, how many rows it
has, where its batches lie, and its schema, if that is known.  `FileMetadata.load` finds all
of it in the file itself.
-/

namespace BatchFile

/-- What is known about a file. -/
structure FileMetadata where
  /-- The path, seen from the base path of a reader. -/
  path : Path
  /-- The number of rows, meant to be that of all batches. -/
  recordCount : UInt64
  footer : FileFooter
  /-- The schema of windows without rows; if it is not known, it is read from the file. -/
  schema? : Option Schema
deriving DecidableEq

namespace FileMetadata

/-- The metadata with as many rows as the batches have, at most the largest word. -/
def ofFooter (path : Path) (footer : FileFooter) (schema? : Option Schema) : FileMetadata :=
  ⟨path, footer.recordCount, footer, schema?⟩

/-- Whether the file has no rows. -/
def isEmpty (m : FileMetadata) : Bool := m.recordCount = 0

variable {σ τ : Type} [Storage σ τ] [Ipc.Decoder]

/-- The metadata in an open file of the given length. -/
def read (resolved path : Path) (size : UInt64) : Action (τ × σ) (Failure Error) FileMetadata := do
  let _ ← Framing.validate resolved size
  let (schema, footer) ← Framing.readFooter resolved size
  match footer.tryRecordCount with
  | none => Framing.reject resolved .countsTooLarge
  | some records =>
    Storage.note (.loaded resolved (UInt64.ofNat footer.batches.length) records)
    return ofFooter path footer (some schema)

/-- The metadata in the file at a path under a base path.  The framing is always checked. -/
def load (base path : Path) : Action σ (Failure Error) FileMetadata := do
  let resolved := Path.join base path
  let size ← Framing.onFile resolved (Storage.fileSize resolved)
  let stream ← Framing.onFile resolved (Storage.openFile resolved)
  Storage.releasing stream (read resolved path size)

end FileMetadata

end BatchFile
