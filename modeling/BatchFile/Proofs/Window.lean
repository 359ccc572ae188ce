import BatchFile.Window.Basic

/-!
# The rows of windows

The rows of a slice are a piece of the rows of its table, and so the rows of a window are
those from its start up to its stop.
-/

namespace BatchFile

theorem Column.values_slice (c : Column) (start count : Nat) :
  (c.slice start count).values = (c.values.drop start).take count
  := by
  cases c with
  | nulls n => simp [slice, values]
  | slots t ss h => simp [slice, values, List.map_take, List.map_drop]

theorem Column.valueAt_slice {c : Column} {start count i : Nat} (h : i < count) :
  (c.slice start count).valueAt i = c.valueAt (start + i)
  := by
  rw [← getD_values, ← getD_values, values_slice, List.getD_eq_getElem?_getD,
    List.getD_eq_getElem?_getD, List.getElem?_take_of_lt h, List.getElem?_drop]

namespace RecordBatch

theorem length_rows (b : RecordBatch) :
  b.rows.length = b.rowCount
  := by
  rw [rows_eq, List.length_map, List.length_range]

theorem row_slice {b : RecordBatch} {start count i : Nat} (h : i < count) :
  (b.slice start count).row i = b.row (start + i)
  := by
  simp only [row, slice, List.map_map, Function.comp_def, Column.valueAt_slice h]

/-- The rows of a slice are a piece of the rows of the table. -/
theorem rows_slice (b : RecordBatch) (start count : Nat) :
  (b.slice start count).rows = (b.rows.drop start).take count
  := by
  apply List.ext_getElem
  · rw [length_rows, List.length_take, List.length_drop, length_rows]
    rfl
  · intro i h1 h2
    have hi : i < count := by
      rw [List.length_take] at h2
      omega
    simp only [rows_eq, List.getElem_map, List.getElem_range, List.getElem_take,
      List.getElem_drop]
    apply row_slice hi

theorem rows_empty (schema : Schema) :
  (RecordBatch.empty schema).rows = []
  := rfl

end RecordBatch

namespace Window

theorem ofRange?_eq_some_iff {b : RecordBatch} {start stop : Nat} {w : Window} :
  ofRange? b start stop = some w ↔ w.batch = b ∧ w.start = start ∧ w.stop = stop
  := by
  rw [ofRange?]
  constructor
  · intro h
    split at h
    · cases h
      exact ⟨rfl, rfl, rfl⟩
    · cases h
  · obtain ⟨batch, start', stop', h1, h2⟩ := w
    rintro ⟨rfl, rfl, rfl⟩
    rw [dif_pos ⟨h1, h2⟩]

/-- The rows of a window are those of its batch from the start up to the stop. -/
theorem rows_eq (w : Window) :
  w.rows = (w.batch.rows.drop w.start).take (w.stop - w.start)
  := RecordBatch.rows_slice w.batch w.start w.size

theorem rows_empty (schema : Schema) :
  (Window.empty schema).rows = []
  := by
  rw [rows_eq, empty, RecordBatch.rows_empty]
  rfl

end Window

end BatchFile
