import BatchFile.Footer.Basic
import BatchFile.RowRange

/-!
# Row plans

A row plan says which batches of a footer hold the rows of a range and which rows each of
them gives.  It is made by walking over the batches with the number of rows covered so far
and the number of rows still wanted: batches without rows are passed over, batches that end
before the range are skipped, and the walk stops when no row is wanted any more.
-/

namespace BatchFile

/-- A batch to decode and the rows wanted from it. -/
structure Selection where
  summary : BatchSummary
  /-- The first wanted row. -/
  start : UInt64
  /-- The row after the last wanted one. -/
  stop : UInt64
deriving DecidableEq, Repr

/-- How the walk over the batches ends. -/
inductive PlanEnd where
  /-- All rows have been found. -/
  | complete
  /-- The rows covered up to the batch at an offset are more than a word counts. -/
  | tooManyRows (offset : UInt64)
  /-- The batches end, and rows are missing. -/
  | missing (covered remaining : UInt64)
deriving DecidableEq, Repr

/-- The batches to decode for a row range. -/
structure RowPlan where
  selections : List Selection
  /-- The number of batches with rows that end before the range. -/
  skipped : UInt64
  ending : PlanEnd
deriving DecidableEq, Repr

namespace RowPlan

/-- The plan without batches. -/
def stop (ending : PlanEnd) : RowPlan := ⟨[], 0, ending⟩

/-- The plan after a batch that ends before the range. -/
def skip (p : RowPlan) : RowPlan := { p with skipped := p.skipped + 1 }

/-- The plan after a batch that gives rows. -/
def select (x : Selection) (p : RowPlan) : RowPlan := { p with selections := x :: p.selections }

/-- The selection from a batch that lies after `covered` rows and ends behind the start. -/
def selection (start covered remaining : UInt64) (b : BatchSummary) : Selection where
  summary := b
  start := Word.subCapped start covered
  stop := min b.recordCount (Word.subCapped start covered + remaining)

/-- The plan for the batches that are left, `covered` rows having been passed and
`remaining` rows being wanted still. -/
def walk (start covered remaining : UInt64) : List BatchSummary → RowPlan
  | [] => if remaining = 0 then stop .complete else stop (.missing covered remaining)
  | b :: bs =>
    if remaining = 0 then stop .complete
    else if b.recordCount = 0 then walk start covered remaining bs
    else
      match Word.add? covered b.recordCount with
      | none => stop (.tooManyRows b.offset)
      | some upTo =>
        if upTo ≤ start then (walk start upTo remaining bs).skip
        else
          let x := selection start covered remaining b
          (walk start upTo (remaining - (x.stop - x.start)) bs).select x

/-- The plan for a row range. -/
def ofRange (f : FileFooter) (r : RowRange) : RowPlan :=
  walk r.start 0 r.limit f.batches

end RowPlan

end BatchFile
