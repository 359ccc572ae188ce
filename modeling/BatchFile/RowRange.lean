import BatchFile.Panic

/-!
# Row ranges

A row range is a start and a limit, and stands for the rows from the start on, as many as
the limit says.  `RowRange.split` cuts all rows of a file into contiguous ranges of one
length, the last of which may be shorter.  It makes room for as many ranges as are asked for
before it makes the first of them, and panics if there cannot be so much room.
-/

namespace BatchFile

/-- A range of rows. -/
structure RowRange where
  /-- The first row. -/
  start : UInt64
  /-- The number of rows. -/
  limit : UInt64
deriving DecidableEq, Repr

namespace RowRange

/-- The row after the last one, as a word. -/
def stop (r : RowRange) : UInt64 := r.start + r.limit

/-- The quotient of two words, rounded up. -/
def ceilDiv (a b : UInt64) : UInt64 :=
  if a % b = 0 then a / b else a / b + 1

/-- The end of a chunk is an exact sum. -/
theorem toNat_chunk_end {chunk recordCount start : UInt64} (h : start < recordCount) :
  (start + min chunk (recordCount - start)).toNat
    = start.toNat + min chunk.toNat (recordCount.toNat - start.toNat)
  := by
  have hr := recordCount.toNat_lt
  have h := UInt64.lt_iff_toNat_lt.mp h
  have hd : (recordCount - start).toNat = recordCount.toNat - start.toNat :=
    UInt64.toNat_sub_of_le _ _ (UInt64.le_iff_toNat_le.mpr (by omega))
  have hm : (min chunk (recordCount - start)).toNat
      = min chunk.toNat (recordCount.toNat - start.toNat) := by
    rw [← hd]
    simp only [min, UInt64.le_iff_toNat_le]
    split <;> rfl
  rw [UInt64.toNat_add, hm, Nat.mod_eq_of_lt (by omega)]

theorem chunk_end_closer {chunk recordCount start : UInt64}
    (h : start < recordCount ∧ 0 < chunk) :
  recordCount.toNat - (start + min chunk (recordCount - start)).toNat
    < recordCount.toNat - start.toNat
  := by
  rw [toNat_chunk_end h.1]
  have h1 := UInt64.lt_iff_toNat_lt.mp h.1
  have h2 : 0 < chunk.toNat := UInt64.lt_iff_toNat_lt.mp h.2
  omega

/-- The ranges of length `chunk` that cover the rows from `start` up to `recordCount`. -/
def chunks (chunk recordCount start : UInt64) : List RowRange :=
  if h : start < recordCount ∧ 0 < chunk then
    have := chunk_end_closer h
    ⟨start, min chunk (recordCount - start)⟩
      :: chunks chunk recordCount (start + min chunk (recordCount - start))
  else []
termination_by recordCount.toNat - start.toNat

/-- The number of bytes of a row range in a list. -/
def byteSize : Nat := 16

/-- All rows of a file in at most `shards` ranges; the range without rows for a file
without rows. -/
def split (recordCount : UInt64) (shards : UInt64) : Except Panic (List RowRange) :=
  if recordCount = 0 then .ok [⟨0, 0⟩]
  else do
    let shards := min (max shards 1) recordCount
    let chunk := ceilDiv recordCount shards
    Buffer.reserve shards.toNat byteSize
    return chunks chunk recordCount 0

end RowRange

end BatchFile
