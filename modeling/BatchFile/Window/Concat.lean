import BatchFile.Column.Limits
import BatchFile.Window.Basic

/-!
# Joining windows

`Window.concat` makes one table of the selected rows of a list of windows.  The first
window gives the schema and with it the number of columns; the columns of the others are
taken by position, and their names play no part.  The columns are joined one after another,
and the first problem decides.  It may be an error or a panic.
-/

namespace BatchFile

/-- Why windows are not joined, as an error says it. -/
inductive ConcatError where
  /-- The columns at a position are not of one type. -/
  | typeMismatch (position : Nat)
  /-- The values at a position have more bytes than the offsets of one column count. -/
  | offsetOverflow (position : Nat)
  /-- A null would come under a field that does not allow it. -/
  | unexpectedNull
deriving DecidableEq, Repr

/-- The wording of an error. -/
def ConcatError.message : ConcatError → String
  | typeMismatch position =>
    "the columns at position " ++ toString position ++ " are not of one type"
  | offsetOverflow position =>
    "the values at position " ++ toString position ++ " are too long for one column"
  | unexpectedNull => "a null in a column that does not allow it"

/-- The failure to join the columns at a position where the slots are too many. -/
def Excess.failure (position : Nat) : Excess → Failure ConcatError
  | offset => .returned (.offsetOverflow position)
  | buffer => .panicked .capacityOverflow

namespace Window

/-- The columns of tables at a position; a table that has none there is a cause to panic. -/
def columnsAt (position : Nat) :
    List RecordBatch → Except (Failure ConcatError) (List Column)
  | [] => .ok []
  | b :: bs =>
    match b.columns[position]? with
    | none => .error (.panicked (.indexOutOfBounds position b.columns.length))
    | some c => do
      let cs ← columnsAt position bs
      return c :: cs

/-- The slots of columns, one after another, if all columns are of one type. -/
def joinSlots? (first : Column) : List Column → Option Column
  | [] => some first
  | c :: cs =>
    match first.append? c with
    | some joined => joinSlots? joined cs
    | none => none

/-- The number of rows of all tables. -/
def totalRows : List RecordBatch → Nat
  | [] => 0
  | b :: bs => b.rowCount + totalRows bs

variable [ColumnLimits]

/-- The check that the joined columns of a position are not too large for one column. -/
def checkJoined (position : Nat) (joined : Column) : Except (Failure ConcatError) Unit :=
  if UInt64.size ≤ joined.length then .error (.panicked .addOverflow)
  else
    match joined.excess? with
    | some excess => .error (excess.failure position)
    | none => .ok ()

/-- A column and those of other tables at its position as one column.  Without others, the
column is taken as it is. -/
def joinColumn (position : Nat) (first : Column) (others : List RecordBatch) :
    Except (Failure ConcatError) Column := do
  let columns ← columnsAt position others
  match joinSlots? first columns with
  | none => throw (.returned (.typeMismatch position))
  | some joined =>
    if others ≠ [] then checkJoined position joined
    return joined

/-- The table with the rows of a first table and of others. -/
def joinTables (first : RecordBatch) (others : List RecordBatch) :
    Except (Failure ConcatError) RecordBatch := do
  let columns ← first.columns.zipIdx.mapM fun (c, i) => joinColumn i c others
  let rowCount := totalRows (first :: others)
  if UInt64.size ≤ rowCount then throw (.panicked .addOverflow)
  match RecordBatch.ofColumns? first.schema columns rowCount with
  | some b => return b
  | none => throw (.returned .unexpectedNull)

/-- The selected rows of all windows as one table; none if there is no window. -/
def concat : List Window → Except (Failure ConcatError) (Option RecordBatch)
  | [] => .ok none
  | w :: ws => do
    let b ← joinTables w.slice (ws.map slice)
    return some b

end Window

end BatchFile
