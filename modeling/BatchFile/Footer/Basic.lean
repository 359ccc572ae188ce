import BatchFile.Word

/-!
# The footer index

A footer lists the batches of a file in the order in which they lie in it: where each one
starts and how many rows it has.  `FileFooter.recordCount` is the number of all rows,
stopping at the largest word; `FileFooter.tryRecordCount` has no value beyond that.
-/

namespace BatchFile

/-- Place and size of one batch of a file. -/
structure BatchSummary where
  /-- The position of the batch's first byte. -/
  offset : UInt64
  /-- The number of rows of the batch. -/
  recordCount : UInt64
deriving DecidableEq, Repr

/-- The batches of a file, in file order. -/
structure FileFooter where
  batches : List BatchSummary
deriving DecidableEq, Repr

namespace FileFooter

/-- The footer of a file without batches. -/
def empty : FileFooter := ⟨[]⟩

/-- The number of rows in all batches, at most the largest word. -/
def recordCount (f : FileFooter) : UInt64 :=
  f.batches.foldl (fun total b => Word.addCapped total b.recordCount) 0

/-- The number of rows in all batches, if it is a word. -/
def tryRecordCount (f : FileFooter) : Option UInt64 :=
  f.batches.foldlM (fun total b => Word.add? total b.recordCount) 0

/-- The number of batches that have rows. -/
def nonEmptyBatches (f : FileFooter) : Nat :=
  f.batches.countP fun b => 0 < b.recordCount

end FileFooter

end BatchFile
