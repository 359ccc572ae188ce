import BatchFile.Proofs.Window
import Mathlib.Data.List.Forall2
import Mathlib.Data.List.GetD
import Mathlib.Tactic.Tauto

/-!
# Tables by position

The columns of a table stand under the fields of its schema, and they may stand under those of
another schema as well (`RecordBatch.StandsUnder`).  The rows of columns that consist of two pieces
each are the rows of the first pieces and then those of the second ones
(`RecordBatch.rowsOf_append`), and columns that are cut off are cut off the rows
(`RecordBatch.rowsOf_take`).
-/

namespace BatchFile

/-! ### Columns under fields -/

theorem Field.admits_iff {f : Field} {c : Column} :
  f.admits c = true ↔ c.type = f.type ∧ (f.nullable = true ∨ c.nullCount = 0)
  := by simp [Field.admits]

/-- Columns fit fields just if there is one for each field that can stand under it, and all of
them have the given number of slots. -/
theorem admitsAll_iff {fs : List Field} {cs : List Column} {n : Nat} :
  admitsAll fs cs n = true ↔ List.Forall₂ (fun f c => f.admits c = true ∧ c.length = n) fs cs
  := by
  induction fs generalizing cs with
  | nil => cases cs <;> simp [admitsAll]
  | cons f fs ih => cases cs <;> simp [admitsAll, ih]

section Append

variable {a b c : Column}

/-- The two ways in which the slots of columns are put together. -/
theorem Column.append?_eq_some (h : a.append? b = some c) :
  (∃ m n, a = .nulls m ∧ b = .nulls n ∧ c = .nulls (m + n))
    ∨ ∃ t ss us ht, a = .slots t ss ht ∧ b = .slots t us ht ∧ c = .slots t (ss ++ us) ht
  := by
  cases a <;> cases b <;> simp only [append?, Option.some.injEq, reduceCtorEq] at h
  case nulls.nulls m n => exact .inl ⟨m, n, rfl, rfl, h.symm⟩
  case slots.slots t ss ht u us hu =>
    split at h
    case isTrue e =>
      cases h
      subst e
      exact .inr ⟨t, ss, us, ht, rfl, rfl, rfl⟩
    case isFalse => cases h

theorem Column.type_of_append? (h : a.append? b = some c) :
  c.type = a.type
  := by
  obtain ⟨m, n, rfl, rfl, rfl⟩ | ⟨t, ss, us, ht, rfl, rfl, rfl⟩ := append?_eq_some h
  · rfl
  · rfl

theorem Column.nullCount_of_append? (h : a.append? b = some c) :
  c.nullCount = a.nullCount + b.nullCount
  := by
  obtain ⟨m, n, rfl, rfl, rfl⟩ | ⟨t, ss, us, ht, rfl, rfl, rfl⟩ := append?_eq_some h
  · rfl
  · apply List.countP_append

/-- The slots of two columns can stand under a field just if those of each of them can. -/
theorem Field.admits_of_append? (f : Field) (h : a.append? b = some c) :
  f.admits c = true ↔ f.admits a = true ∧ f.admits b = true
  := by
  have ht : a.type = b.type := (Column.isSome_append? a b).mp (h ▸ rfl)
  rw [admits_iff, admits_iff, admits_iff, Column.type_of_append? h,
    Column.nullCount_of_append? h, ← ht, Nat.add_eq_zero_iff]
  tauto

end Append

/-! ### Tables by position -/

namespace RecordBatch

theorem forall₂_columns (b : RecordBatch) :
  List.Forall₂ (fun f c => f.admits c = true ∧ c.length = b.rowCount) b.schema.fields b.columns
  := admitsAll_iff.mp b.consistent

theorem length_columns (b : RecordBatch) :
  b.columns.length = b.schema.fields.length
  := b.forall₂_columns.length_eq.symm

/-- The table has a column at the position of each of the fields, which can stand under it. -/
def StandsUnder (b : RecordBatch) (fields : List Field) : Prop :=
  ∀ (i : Nat) (f : Field), fields[i]? = some f →
    ∃ c, b.columns[i]? = some c ∧ f.admits c = true

theorem standsUnder_fields (b : RecordBatch) :
  b.StandsUnder b.schema.fields
  := by
  intro i f hf
  obtain ⟨hi, rfl⟩ := List.getElem?_eq_some_iff.mp hf
  have hc : i < b.columns.length := by rwa [length_columns]
  use b.columns[i], List.getElem?_eq_getElem hc
  apply (b.forall₂_columns.get hi hc).1

theorem StandsUnder.length_le {b : RecordBatch} {fields : List Field}
    (h : b.StandsUnder fields) :
  fields.length ≤ b.columns.length
  := by
  by_contra hl
  obtain ⟨c, hc, -⟩ := h b.columns.length fields[b.columns.length] (List.getElem?_eq_getElem _)
  rw [List.getElem?_eq_none (Nat.le_refl _)] at hc
  cases hc

/-- The values of the column at a position. -/
def valuesAt (b : RecordBatch) (i : Nat) : List Value :=
  (b.columns.map Column.values).getD i []

theorem valuesAt_eq {b : RecordBatch} {i : Nat} {c : Column} (h : b.columns[i]? = some c) :
  b.valuesAt i = c.values
  := by
  rw [valuesAt, List.getD_eq_getElem?_getD, List.getElem?_map, h]
  rfl

theorem length_valuesAt {b : RecordBatch} {i : Nat} (h : i < b.columns.length) :
  (b.valuesAt i).length = b.rowCount
  := by
  have hf : i < b.schema.fields.length := by rwa [← length_columns]
  rw [valuesAt_eq (List.getElem?_eq_getElem h), Column.length_values]
  apply (b.forall₂_columns.get hf h).2

/-! ### Rows of joined columns -/

/-- Rows of columns that are cut to a width are cut to this width. -/
theorem rowsOf_take (m n : Nat) (columns : List (List Value)) :
  rowsOf m (columns.take n) = (rowsOf m columns).map (List.take n)
  := by
  simp only [rowsOf_eq, List.map_map, Function.comp_def, List.map_take]

/-- Rows of columns that consist of two pieces each are the rows of the first pieces, and then
those of the second ones. -/
theorem rowsOf_append {m n : Nat} {is : List Nat} {f g : Nat → List Value}
    (h : ∀ i ∈ is, (f i).length = m) :
  rowsOf (m + n) (is.map fun i => f i ++ g i) = rowsOf m (is.map f) ++ rowsOf n (is.map g)
  := by
  simp only [rowsOf_eq, List.range_add, List.map_append, List.map_map, Function.comp_def]
  congr 1
  · apply List.map_congr_left
    intro k hk
    apply List.map_congr_left
    intro i hi
    rw [List.mem_range, ← h i hi] at hk
    apply List.getD_append _ _ _ _ hk
  · apply List.map_congr_left
    intro k _
    apply List.map_congr_left
    intro i hi
    rw [List.getD_append_right _ _ _ _ (by rw [h i hi]; omega), h i hi, Nat.add_sub_cancel_left]

theorem length_of_mem_rows {b : RecordBatch} {row : Row} (h : row ∈ b.rows) :
  row.length = b.schema.fields.length
  := by
  rw [rows_eq] at h
  obtain ⟨i, -, rfl⟩ := List.mem_map.mp h
  rw [RecordBatch.row, List.length_map, length_columns]

/-- Rows that are cut to the width of their own table stay as they are. -/
theorem map_take_rows (b : RecordBatch) :
  b.rows.map (List.take b.schema.fields.length) = b.rows
  := by
  have h : ∀ row ∈ b.rows, List.take b.schema.fields.length row = id row := by
    intro row hr
    rw [← length_of_mem_rows hr, List.take_length, id]
  rw [List.map_congr_left h, List.map_id]

theorem map_valuesAt {b : RecordBatch} {n : Nat} (h : n ≤ b.columns.length) :
  (List.range n).map b.valuesAt = (b.columns.map Column.values).take n
  := by
  apply List.ext_getElem
  · simp [h]
  · intro i h1 h2
    have hi : i < (b.columns.map Column.values).length := by
      rw [List.length_take] at h2
      omega
    rw [List.getElem_map, List.getElem_range, List.getElem_take, valuesAt,
      List.getD_eq_getElem _ _ hi]

end RecordBatch

end BatchFile
