import BatchFile.Column.Batch

/-!
# Windows

A window is a decoded batch and a range of its rows.  `Window.rows` are the selected rows;
the rest of the batch stays in the window but cannot be seen through it.
-/

namespace BatchFile

/-- A batch and the rows selected from it. -/
structure Window where
  batch : RecordBatch
  /-- The first selected row. -/
  start : Nat
  /-- The row after the last selected one. -/
  stop : Nat
  start_le_stop : start ≤ stop
  stop_le_rowCount : stop ≤ batch.rowCount
deriving DecidableEq

namespace Window

/-- The given rows of a batch, if it has them. -/
def ofRange? (batch : RecordBatch) (start stop : Nat) : Option Window :=
  if h : start ≤ stop ∧ stop ≤ batch.rowCount then some ⟨batch, start, stop, h.1, h.2⟩
  else none

/-- The window over a batch without rows. -/
def empty (schema : Schema) : Window where
  batch := .empty schema
  start := 0
  stop := 0
  start_le_stop := Nat.le_refl 0
  stop_le_rowCount := Nat.le_refl 0

/-- The number of selected rows. -/
def size (w : Window) : Nat := w.stop - w.start

/-- The number of selected rows of all windows. -/
def totalSize : List Window → Nat
  | [] => 0
  | w :: ws => w.size + totalSize ws

/-- Whether no row is selected. -/
def isEmpty (w : Window) : Bool := w.start = w.stop

/-- The selected rows as a table. -/
def slice (w : Window) : RecordBatch := w.batch.slice w.start w.size

/-- The schema of the batch. -/
def schema (w : Window) : Schema := w.batch.schema

/-- The selected rows. -/
def rows (w : Window) : List Row := w.slice.rows

theorem rowCount_slice (w : Window) :
  w.slice.rowCount = w.size
  := by
  have h1 := w.start_le_stop
  have h2 := w.stop_le_rowCount
  simp only [slice, RecordBatch.slice, size]
  omega

end Window

end BatchFile
