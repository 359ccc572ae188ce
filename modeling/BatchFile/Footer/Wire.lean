import BatchFile.Footer.Basic
import BatchFile.Varint

/-!
# The wire form of a footer

A list of batches is written as its length and then, for each batch, its offset and its
row count, all of them variable-length numbers.  The footer stored in a file has the bytes
of the file's schema before that list, preceded by their number.  Every decoder reads from
the front of a byte string and gives back what follows the value.
-/

namespace BatchFile

namespace BatchSummary

/-- The wire form of a summary. -/
def encode (s : BatchSummary) : Bytes :=
  Varint.encode s.offset ++ Varint.encode s.recordCount

/-- The summary at the front of the bytes. -/
def decode (b : Bytes) : Except WireError (BatchSummary × Bytes) := do
  let (offset, b) ← Varint.decode b
  let (recordCount, b) ← Varint.decode b
  return (⟨offset, recordCount⟩, b)

end BatchSummary

namespace FileFooter

/-- The next `n` summaries at the front of the bytes. -/
def decodeSummaries : Nat → Bytes → Except WireError (List BatchSummary × Bytes)
  | 0, b => .ok ([], b)
  | n + 1, b => do
    let (summary, b) ← BatchSummary.decode b
    let (rest, b) ← decodeSummaries n b
    return (summary :: rest, b)

/-- The wire form of a list of batches. -/
def encode (f : FileFooter) : Bytes :=
  Varint.encode (UInt64.ofNat f.batches.length) ++ f.batches.flatMap BatchSummary.encode

/-- The list of batches at the front of the bytes. -/
def decode (b : Bytes) : Except WireError (FileFooter × Bytes) := do
  let (count, b) ← Varint.decode b
  let (batches, b) ← decodeSummaries count.toNat b
  return (⟨batches⟩, b)

end FileFooter

/-- A footer as it is stored in a file: the bytes of the schema and the batches. -/
structure StoredFooter where
  /-- The schema as an encoded stream. -/
  schema : Bytes
  footer : FileFooter
deriving DecidableEq, Repr

namespace StoredFooter

/-- The wire form of a stored footer. -/
def encode (s : StoredFooter) : Bytes :=
  Varint.encode (UInt64.ofNat s.schema.length) ++ s.schema ++ s.footer.encode

/-- The stored footer at the front of the bytes. -/
def decode (b : Bytes) : Except WireError (StoredFooter × Bytes) := do
  let (length, b) ← Varint.decode b
  if b.length < length.toNat then
    throw .endOfBuffer
  let (footer, rest) ← FileFooter.decode (b.drop length.toNat)
  return (⟨b.take length.toNat, footer⟩, rest)

end StoredFooter

end BatchFile
