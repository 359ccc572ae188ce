import BatchFile.Column.Basic

/-!
# Record batches

A record batch is a table: one column for each field of its schema, all of one length, of
the field's type, and without nulls where the field does not allow them.  Its rows list the
values of all columns.  A batch of a schema without fields still has a number of rows.
-/

namespace BatchFile

/-- Whether a column can stand under a field. -/
def Field.admits (f : Field) (c : Column) : Bool :=
  c.type = f.type && (f.nullable || c.nullCount = 0)

/-- Whether there is one column for each field that can stand under it, with the given
number of slots. -/
def admitsAll : List Field → List Column → Nat → Bool
  | [], [], _ => true
  | f :: fs, c :: cs, n => f.admits c && c.length = n && admitsAll fs cs n
  | _, _, _ => false

/-- A table. -/
structure RecordBatch where
  schema : Schema
  columns : List Column
  rowCount : Nat
  consistent : admitsAll schema.fields columns rowCount = true
deriving DecidableEq

/-- The values of one row of a table. -/
abbrev Row := List Value

namespace RecordBatch

/-- The table with the given columns, if they fit the schema. -/
def ofColumns? (schema : Schema) (columns : List Column) (rowCount : Nat) :
    Option RecordBatch :=
  if h : admitsAll schema.fields columns rowCount = true then
    some ⟨schema, columns, rowCount, h⟩
  else none

/-- The table with the given columns, which has as many rows as the first of them, if they
fit the schema. -/
def ofSomeColumns? (schema : Schema) (columns : List Column) : Option RecordBatch :=
  match columns with
  | [] => none
  | c :: _ => ofColumns? schema columns c.length

/-- Row `i` of the table. -/
def row (b : RecordBatch) (i : Nat) : Row :=
  b.columns.map fun c => c.valueAt i

/-- The first `n` rows of columns with the given values. -/
def rowsOf : Nat → List (List Value) → List Row
  | 0, _ => []
  | n + 1, columns =>
    (columns.map fun values => values.headD .null) :: rowsOf n (columns.map List.tail)

/-- The rows of the table, in order. -/
def rows (b : RecordBatch) : List Row :=
  rowsOf b.rowCount (b.columns.map Column.values)

/-- The first column with the given name. -/
def columnNamed? (b : RecordBatch) (name : String) : Option Column :=
  (b.schema.indexOf? name).bind fun i => b.columns[i]?

theorem rowsOf_eq (n : Nat) (columns : List (List Value)) :
  rowsOf n columns
    = (List.range n).map fun i => columns.map fun values => values.getD i .null
  := by
  induction n generalizing columns with
  | zero => rfl
  | succ n ih =>
    simp [rowsOf, ih, List.range_succ_eq_map, Function.comp_def, List.head?_eq_getElem?]

/-- The rows of a table are its row `i` for each `i` up to the number of rows. -/
theorem rows_eq (b : RecordBatch) :
  b.rows = (List.range b.rowCount).map b.row
  := by
  simp only [rows, rowsOf_eq, List.map_map, Function.comp_def, Column.getD_values]
  rfl

theorem admitsAll_empty (fs : List Field) :
  admitsAll fs (fs.map fun f => .ofValues f.type []) 0 = true
  := by
  induction fs with
  | nil => rfl
  | cons f fs ih => simp [admitsAll, Field.admits, ih]

/-- The table without rows. -/
def empty (schema : Schema) : RecordBatch where
  schema := schema
  columns := schema.fields.map fun f => .ofValues f.type []
  rowCount := 0
  consistent := admitsAll_empty schema.fields

theorem admitsAll_slice {fs : List Field} {cs : List Column} {n : Nat} (start count : Nat)
    (h : admitsAll fs cs n = true) :
  admitsAll fs (cs.map fun c => c.slice start count) (min count (n - start)) = true
  := by
  induction fs generalizing cs with
  | nil =>
    cases cs with
    | nil => rfl
    | cons c cs => simp [admitsAll] at h
  | cons f fs ih =>
    cases cs with
    | nil => simp [admitsAll] at h
    | cons c cs =>
      simp only [admitsAll, Field.admits, Bool.and_eq_true, Bool.or_eq_true,
        decide_eq_true_eq] at h
      obtain ⟨⟨⟨ht, hn⟩, hl⟩, hr⟩ := h
      have hs := c.nullCount_slice_le start count
      have hn' : f.nullable = true ∨ (c.slice start count).nullCount = 0 :=
        hn.imp_right fun h0 => by omega
      simp [admitsAll, Field.admits, ht, hl, ih hr, hn']

/-- The rows from `start` on, `count` of them as far as there are as many. -/
def slice (b : RecordBatch) (start count : Nat) : RecordBatch where
  schema := b.schema
  columns := b.columns.map fun c => c.slice start count
  rowCount := min count (b.rowCount - start)
  consistent := admitsAll_slice start count b.consistent

end RecordBatch

end BatchFile
