import BatchFile.Decimal.Shortest
import BatchFile.Window.Basic

/-!
# Typed rows

A row type names the fields of a record and says what each of them accepts.  A row of a
table converts to it if every field of the row type finds exactly one column of its name,
or has a value for the case that there is none, and accepts the value of the row in that
column.  Other columns play no part.  Truth values are accepted as the integers 0 and 1, and
floating-point numbers as their shortest decimal texts.
-/

namespace BatchFile

/-- What a field of a row type accepts. -/
inductive FieldForm where
  /-- Integers in a range. -/
  | integer (low high : Int)
  /-- Texts. -/
  | text
  /-- Texts and nulls. -/
  | optionalText
deriving DecidableEq, Repr

/-- A field of a row type. -/
structure RowField where
  name : String
  form : FieldForm
  /-- The value of the field if no column has its name. -/
  missing? : Option Value
deriving DecidableEq, Repr

/-- A record type for rows. -/
abbrev RowType := List RowField

/-- A record: the values of the fields of a row type, in their order. -/
abbrev Record := List Value

/-- A row cannot be converted. -/
inductive RowError where
  | missingColumn (name : String)
  | ambiguousColumn (name : String)
  | unacceptable (name : String)
deriving DecidableEq, Repr

namespace FieldForm

/-- Signed integers of the given width. -/
def signed (w : Width) : FieldForm :=
  .integer (-(Bytes.count w.bytes / 2 : Nat)) ((Bytes.count w.bytes / 2 : Nat) - 1)

/-- Unsigned integers of the given width. -/
def unsigned (w : Width) : FieldForm :=
  .integer 0 ((Bytes.count w.bytes : Nat) - 1)

end FieldForm

/-- The format of the floating-point numbers of a type. -/
def DataType.floatFormat? : DataType → Option FloatFormat
  | .float32 => some .single
  | .float64 => some .double
  | _ => none

namespace Value

/-- The integer that a value counts as. -/
def asInteger? : Value → Option Int
  | .integer n => some n
  | .boolean b => some (if b then 1 else 0)
  | _ => none

/-- The text that a value of the given type counts as. -/
def asText? (type : DataType) : Value → Option String
  | .text s => some s
  | .float bits => type.floatFormat?.map fun f => f.text bits
  | _ => none

end Value

/-- What a field of the given form becomes for a value of the given type, if it accepts the
value. -/
def FieldForm.accept? (form : FieldForm) (type : DataType) (v : Value) : Option Value :=
  match form with
  | .integer low high => do
    let n ← v.asInteger?
    if low ≤ n ∧ n ≤ high then some (.integer n) else none
  | .text => (v.asText? type).map .text
  | .optionalText => if v = .null then some .null else (v.asText? type).map .text

/-- The fields with the given name, each with its position. -/
def Schema.fieldsNamed (s : Schema) (name : String) : List (Field × Nat) :=
  s.fields.zipIdx.filter fun field => field.1.name = name

/-- The value that a field of a row type has in a row. -/
def RowField.valueIn (f : RowField) (s : Schema) (r : Row) : Except RowError Value :=
  match s.fieldsNamed f.name with
  | [] =>
    match f.missing? with
    | some v => .ok v
    | none => .error (.missingColumn f.name)
  | [(field, i)] =>
    match f.form.accept? field.type (r.getD i .null) with
    | some v => .ok v
    | none => .error (.unacceptable f.name)
  | _ => .error (.ambiguousColumn f.name)

namespace RowType

/-- The record that a row converts to. -/
def convert (t : RowType) (s : Schema) (r : Row) : Except RowError Record :=
  t.mapM fun f => f.valueIn s r

end RowType

/-- The records that the selected rows convert to; a table without columns has none, however
many rows it counts. -/
def Window.toRecords (t : RowType) (w : Window) : Except RowError (List Record) :=
  if w.schema.fields = [] then .ok [] else w.rows.mapM (t.convert w.schema)

end BatchFile
