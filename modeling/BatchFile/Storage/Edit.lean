import BatchFile.Bytes
import BatchFile.Storage.IoKind

/-!
# Edits of files

A change puts bytes into a file at a position or gives the file another length; where that
makes the file longer than what is written, the bytes between are zeros.  An edit decides by
the length of a file which change it makes in it, if it can make one.
-/

namespace BatchFile

/-- A change of the contents of a file in place. -/
inductive FileChange where
  /-- Puts bytes over those that lie from a position on. -/
  | put (position : Nat) (bytes : Bytes)
  /-- Cuts the contents down, or fills them up with zeros, to a length. -/
  | resize (length : Nat)
deriving DecidableEq, Repr

namespace Bytes

/-- The byte string cut down, or filled up with zeros, to a length. -/
def resize (length : Nat) (b : Bytes) : Bytes :=
  b.take length ++ List.replicate (length - b.length) 0

/-- The byte string with bytes put at a position, filled up with zeros to there. -/
def put (position : Nat) (bytes b : Bytes) : Bytes :=
  if bytes = [] then b
  else b.resize position ++ bytes ++ b.drop (position + bytes.length)

end Bytes

/-- The contents after a change. -/
def FileChange.apply (change : FileChange) (b : Bytes) : Bytes :=
  match change with
  | .put position bytes => Bytes.put position bytes b
  | .resize length => b.resize length

/-- An edit: the change that is made in a file of a given length. -/
abbrev FileEdit := Nat → Except IoKind FileChange

/-- The contents after an edit. -/
def FileEdit.apply (edit : FileEdit) (b : Bytes) : Except IoKind Bytes := do
  let change ← edit b.length
  return change.apply b

end BatchFile
