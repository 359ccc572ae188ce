import BatchFile.Column.Batch

/-!
# Sample tables

A sample table numbers its rows in a column `id` and names them in a column `name`; every
row whose number is a multiple of three has no name.
-/

namespace BatchFile

namespace Sample

/-- The schema of sample tables. -/
def schema : Schema :=
  ⟨[⟨"id", .integer true .w64, false⟩, ⟨"name", .utf8, true⟩], []⟩

/-- The name of the row with the given number. -/
def name (id : Int) : Value :=
  if id % 3 = 0 then .null else .text ("row-" ++ toString id)

/-- The numbers from `first` up to but not including `stop`. -/
def ids (first stop : Int) : List Int :=
  (List.range (stop - first).toNat).map fun i => first + (i : Nat)

/-- The column of row numbers. -/
def idColumn (ids : List Int) : Column :=
  .ofValues (.integer true .w64) (ids.map .integer)

/-- The column of row names. -/
def nameColumn (ids : List Int) : Column :=
  .ofValues .utf8 (ids.map name)

theorem nullCount_idColumn (ids : List Int) :
  (idColumn ids).nullCount = 0
  := by
  induction ids with
  | nil => rfl
  | cons i ids ih => simp_all [idColumn, Column.ofValues, Column.nullCount]

theorem admitsAll_columns (ids : List Int) :
  admitsAll schema.fields [idColumn ids, nameColumn ids] ids.length = true
  := by
  simp [schema, admitsAll, Field.admits, nullCount_idColumn]
  simp [idColumn, nameColumn]

/-- The sample table with the row numbers from `first` up to but not including `stop`. -/
def batch (first stop : Int) : RecordBatch where
  schema := schema
  columns := [idColumn (ids first stop), nameColumn (ids first stop)]
  rowCount := (ids first stop).length
  consistent := admitsAll_columns (ids first stop)

end Sample

end BatchFile
