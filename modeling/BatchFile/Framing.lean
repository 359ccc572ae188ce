import BatchFile.Error
import BatchFile.Footer.Wire
import BatchFile.Layout

/-!
# Framing

The trailer of a batch file leads to its footer.  `Framing.validate` checks the trailer and
leaves the stream at the end of the file; `Framing.readFooter` reads and decodes the footer,
and does not look at the magic word.  Both are given the length of the file, which need not
be that of the stream.  The footer is read into a buffer of its length, for which there may be
no room.
-/

namespace BatchFile

/-- The schema and the batches that the bytes of a stored footer stand for; bytes after the
footer are ignored. -/
def decodeFooter [Ipc.Decoder] (b : Bytes) : Except Defect (Schema × FileFooter) :=
  match StoredFooter.decode b with
  | .error e => .error (.malformedFooter e)
  | .ok (stored, _) =>
    match Ipc.schemaOf stored.schema with
    | .error e => .error (.malformedFooterSchema e)
    | .ok schema => .ok (schema, stored.footer)

namespace Framing

variable {s σ τ α : Type} [Storage σ τ]

/-- An action on the file at a path, with errors that name the path. -/
def onFile (path : Path) (x : Action s IoKind α) : Action s (Failure Error) α :=
  x.mapError (Failure.io path)

/-- The failure of a file with a defect. -/
def reject (path : Path) (defect : Defect) : Action s (Failure Error) α :=
  .fail (.dataFormat path defect)

/-- The check that a file has room for both magic words and the footer offset. -/
def checkSize (path : Path) (size : UInt64) : Action (τ × σ) (Failure Error) Unit := do
  if size < Layout.minFileSize then
    Storage.note (.fileTooSmall path size)
    reject path (.tooSmall size Layout.minFileSize)

/-- The position of the trailer in a file of the given length. -/
def trailerStart (size : UInt64) : UInt64 := size - Layout.trailerSize

/-- The check that a footer offset lies between the leading magic word and the trailer. -/
def checkFooterOffset (path : Path) (footerOffset size : UInt64) :
    Action (τ × σ) (Failure Error) Unit := do
  if footerOffset < Layout.magicLength || trailerStart size ≤ footerOffset then
    Storage.note (.footerOffsetOutOfBounds path footerOffset size)
    reject path (.footerOffset footerOffset size)

/-- The footer offset in the trailer. -/
def readFooterOffset (path : Path) (size : UInt64) : Action (τ × σ) (Failure Error) UInt64 := do
  onFile path (Storage.seek (trailerStart size))
  let bytes ← onFile path (Storage.readExact Layout.footerOffsetSize.toNat)
  return Bytes.toWord bytes

/-- The check of length, trailing magic word and footer offset; gives the offset. -/
def validate (path : Path) (size : UInt64) : Action (τ × σ) (Failure Error) UInt64 := do
  checkSize path size
  let footerOffset ← readFooterOffset path size
  let magic ← onFile path (Storage.readExact Layout.magicLength.toNat)
  if magic ≠ Layout.magic then
    Storage.note (.magicMismatch path)
    reject path (.wrongMagic magic)
  checkFooterOffset path footerOffset size
  return footerOffset

/-- A new buffer of the given length. -/
def allocate (length : UInt64) : Action (τ × σ) (Failure Error) Unit :=
  .ofExcept ((Buffer.reserve length.toNat 1).mapError .panicked)

/-- The schema and the batches in the footer that the trailer leads to. -/
def readFooter [Ipc.Decoder] (path : Path) (size : UInt64) :
    Action (τ × σ) (Failure Error) (Schema × FileFooter) := do
  checkSize path size
  let footerOffset ← readFooterOffset path size
  checkFooterOffset path footerOffset size
  let length := trailerStart size - footerOffset
  allocate length
  onFile path (Storage.seek footerOffset)
  let bytes ← onFile path (Storage.readExact length.toNat)
  match decodeFooter bytes with
  | .ok footer => return footer
  | .error defect => reject path defect

end Framing

end BatchFile
