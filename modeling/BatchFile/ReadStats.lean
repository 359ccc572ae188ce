import BatchFile.Json.Decoder
import BatchFile.Json.Writer

/-!
# Read statistics

Counters of the work a reader has done.  They can be added up, written as a JSON object and
read back, and printed as a table.
-/

namespace BatchFile

/-- The work done by the successful reads of a reader. -/
structure ReadStats where
  /-- Successful reads. -/
  reads : UInt64
  /-- Batches decoded for them. -/
  batchesDecoded : UInt64
  /-- Batches with rows that end before the rows asked for. -/
  batchesSkipped : UInt64
  /-- Rows in the returned windows. -/
  rowsReturned : UInt64
  /-- Reads answered with a window without rows. -/
  emptyResults : UInt64
deriving DecidableEq, Repr

namespace ReadStats

/-- The counters before any read. -/
def zero : ReadStats := ⟨0, 0, 0, 0, 0⟩

/-- The work of both. -/
def merge (a b : ReadStats) : ReadStats where
  reads := a.reads + b.reads
  batchesDecoded := a.batchesDecoded + b.batchesDecoded
  batchesSkipped := a.batchesSkipped + b.batchesSkipped
  rowsReturned := a.rowsReturned + b.rowsReturned
  emptyResults := a.emptyResults + b.emptyResults

/-- The counters with their names. -/
def named (s : ReadStats) : List (String × UInt64) :=
  [("reads", s.reads), ("batches_decoded", s.batchesDecoded),
    ("batches_skipped", s.batchesSkipped), ("rows_returned", s.rowsReturned),
    ("empty_results", s.emptyResults)]

/-- The counters with the given values, in the order of `named`. -/
def ofValues (values : List UInt64) : ReadStats :=
  ⟨values.getD 0 0, values.getD 1 0, values.getD 2 0, values.getD 3 0, values.getD 4 0⟩

/-- The counters with their names, in alphabetical order. -/
def sorted (s : ReadStats) : List (String × UInt64) :=
  [("batches_decoded", s.batchesDecoded), ("batches_skipped", s.batchesSkipped),
    ("empty_results", s.emptyResults), ("reads", s.reads), ("rows_returned", s.rowsReturned)]

/-- The compact text of the counters, in declaration order. -/
def toJson (s : ReadStats) : Bytes :=
  Json.writeObject (s.named.map fun m => (m.1, Json.writeWord m.2))

/-- The spread text of the counters, sorted by name: the contents of a saved file. -/
def toSavedText (s : ReadStats) : Bytes :=
  Json.writeObjectSpread (s.sorted.map fun m => (m.1, Json.writeWord m.2))

/-- The decoder of counters. -/
def decoder : Json.Decoder ReadStats :=
  (Json.record Json.word (zero.named.map fun m => ⟨m.1, none⟩)).map ofValues

/-- The counters that a text stands for. -/
def ofJson (text : Bytes) : Except Json.Fault ReadStats :=
  Json.parse decoder text

/-- The counters as a table of lines. -/
def table (s : ReadStats) : String :=
  "\n========== Read Stats ==========\n"
    ++ String.join (s.named.map fun m => m.1 ++ ": " ++ toString m.2 ++ "\n")
    ++ "================================\n\n"

end ReadStats

end BatchFile
