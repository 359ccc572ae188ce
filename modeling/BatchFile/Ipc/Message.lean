import BatchFile.Column.Schema
import BatchFile.Ipc.TableBuffer

/-!
# Messages

The metadata of a message is a table buffer: a header, which is a schema or the layout of a
record batch, and the length of the body that follows the metadata.  A schema is
`unsupported` where it is well formed but has a field of a kind that no column here has.
-/

namespace BatchFile

namespace Ipc

open TableBuffer

/-- How the columns of a record batch lie in the body of its message. -/
structure BatchLayout where
  /-- The number of rows. -/
  length : Int
  /-- For each column, its length and its number of nulls. -/
  nodes : List (Int × Int)
  /-- For each buffer, its offset in the body and its length. -/
  buffers : List (Int × Int)
deriving DecidableEq, Repr

/-- The header of a message. -/
inductive Header where
  | schema (s : Schema)
  | unsupportedSchema
  | recordBatch (layout : BatchLayout)
  | unsupportedBatch
  | other
deriving DecidableEq, Repr

/-- The metadata of a message. -/
structure Message where
  header : Header
  bodyLength : Int
deriving DecidableEq, Repr

/-- The key and the value of an entry of custom metadata. -/
def keyValueAt (depth position : Nat) : Reading (Option String × Option String) := do
  let t ← tableAt depth position
  return (← t.value 0 textAt, ← t.value 1 textAt)

/-- The custom metadata that the reference at a position leads to. -/
def metadataAt (depth position : Nat) : Reading (List (String × String)) := do
  let entries ← (← referencesAt position).mapM (keyValueAt depth)
  return entries.foldl
    (fun metadata entry =>
      match entry with
      | (some key, some value) => Schema.putMetadata metadata key value
      | _ => metadata)
    []

/-! ### Types

The kind of a type is written as a number.
-/

/-- The kind of the type whose values are all null. -/
def typeNull : Nat := 1

/-- The kind of the integer types. -/
def typeInt : Nat := 2

/-- The kind of the floating-point types. -/
def typeFloatingPoint : Nat := 3

/-- The kind of the type of byte strings. -/
def typeBinary : Nat := 4

/-- The kind of the type of texts. -/
def typeUtf8 : Nat := 5

/-- The kind of the type of truth values. -/
def typeBool : Nat := 6

/-- The kind of the type of texts with offsets of eight bytes. -/
def typeLargeUtf8 : Nat := 20

/-- What lies in a slot of the description of a type. -/
inductive TypeSlot where
  | number (width : Nat)
  | text
  /-- A vector of numbers. -/
  | numbers (width : Nat)
deriving DecidableEq, Repr

/-- The slots of the descriptions of types, by kind from 1 on.  Most kinds that no column
has are among them, for a field can have children of any kind. -/
def typeSlots : List (List TypeSlot) := [
  -- null, integer, floating-point number
  [], [.number 4, .number 1], [.number 2],
  -- byte string, text, truth value
  [], [], [],
  -- decimal
  [.number 4, .number 4, .number 4],
  -- date, time of the day, point in time, interval
  [.number 2], [.number 2, .number 4], [.number 2, .text], [.number 2],
  -- list, structure, union
  [], [], [.number 2, .numbers 4],
  -- byte string of fixed length, list of fixed length, map, duration
  [.number 4], [.number 4], [.number 1], [.number 2],
  -- long byte string, long text, long list, run lengths
  [], [], [], [],
  -- views of byte strings, texts, lists and long lists
  [], [], [], []]

/-- The vector of numbers of `width` bytes that the reference at a position leads to, which
is only checked. -/
def numbersAt (width position : Nat) : Reading Unit := do
  let _ ← vectorAt width width position

/-- The number in a slot of a description, zero for anything else, which is only checked. -/
def TypeSlot.readAt (slot : TypeSlot) (position : Nat) : Reading Nat := do
  match slot with
  | number width => TableBuffer.number width position
  | text =>
    let _ ← textAt position
    return 0
  | numbers width =>
    numbersAt width position
    return 0

/-- The type with the given kind and the given numbers in the slots of its description. -/
def describedType? (kind : Nat) (numbers : List Nat) : Option DataType :=
  if kind = typeNull then some .null
  else if kind = typeInt then
    (Width.ofBits? (Bytes.signed 4 (numbers.getD 0 0)).toNat).map fun w =>
      .integer (numbers.getD 1 0 ≠ 0) w
  else if kind = typeFloatingPoint then
    match numbers.getD 0 0 with
    | 1 => some .float32
    | 2 => some .float64
    | _ => none
  else if kind = typeBinary then some .binary
  else if kind = typeUtf8 then some .utf8
  else if kind = typeBool then some .boolean
  else if kind = typeLargeUtf8 then some .largeUtf8
  else none

/-- The type of the given kind described by the table that the reference at a position
leads to, none for a kind that no column has.  The description of an unknown kind is not
looked at. -/
def typeAt (depth kind position : Nat) : Reading (Option DataType) := do
  if kind = 0 then return none
  match typeSlots[kind - 1]? with
  | none => return none
  | some slots =>
    let t ← tableRef depth position
    let numbers ← slots.zipIdx.mapM fun (slot, i) => do
      return (← t.value i slot.readAt).getD 0
    return describedType? kind numbers

/-! ### Schemas and record batches -/

/-- A check of the description of a dictionary. -/
def dictionaryAt (depth position : Nat) : Reading Unit := do
  let t ← tableRef depth position
  let _ ← t.signed 0 8
  let _ ← t.value 1 (typeAt t.depth typeInt)
  let _ ← t.unsigned 2 1
  let _ ← t.signed 3 2

/-- The field at a position, none for a field that no column can stand under.  A field
without a name has the empty one.  Its children are only checked. -/
def fieldAt : Nat → Nat → Reading (Option Field)
  | 0, _ => failure
  | depth + 1, position => do
    let t ← tableAt (depth + 1) position
    let name ← t.value 0 textAt
    let nullable ← t.unsigned 1 1
    let type ←
      match ← t.choice 2 with
      | none => pure none
      | some (kind, place) => typeAt depth kind place
    let dictionary ← t.value 4 (dictionaryAt depth)
    let children ← t.value 5 referencesAt
    let _ ← (children.getD []).mapM (fieldAt depth)
    let _ ← t.value 6 (metadataAt depth)
    match type, dictionary with
    | some type, none => return some ⟨name.getD "", type, nullable ≠ 0⟩
    | _, _ => return none

/-- The schema that the reference at a position leads to. -/
def schemaAt (depth position : Nat) : Reading Header := do
  let t ← tableRef depth position
  let _ ← t.signed 0 2
  let places ← t.value 1 referencesAt
  let fields ← (places.getD []).mapM (fieldAt t.depth)
  let metadata ← t.value 2 (metadataAt t.depth)
  let _ ← t.value 3 (numbersAt 8)
  match places, fields.mapM id with
  | some _, some fields => return .schema ⟨fields, metadata.getD []⟩
  | _, _ => return .unsupportedSchema

/-- The description of compression that the reference at a position leads to, which is only
checked. -/
def compressionAt (depth position : Nat) : Reading Unit := do
  let t ← tableRef depth position
  let _ ← t.unsigned 0 1
  let _ ← t.unsigned 1 1

/-- The layout of a record batch that the reference at a position leads to. -/
def batchAt (depth position : Nat) : Reading Header := do
  let t ← tableRef depth position
  let length ← t.signed 0 8
  let nodes ← t.value 1 pairsAt
  let buffers ← t.value 2 pairsAt
  let compression ← t.value 3 (compressionAt t.depth)
  let _ ← t.value 4 (numbersAt 8)
  match nodes, buffers, compression with
  | some nodes, some buffers, none => return .recordBatch ⟨length, nodes, buffers⟩
  | _, _, _ => return .unsupportedBatch

/-! ### Headers

The kind of a header is written as a number.
-/

/-- The kind of the header that is a schema. -/
def headerSchema : Nat := 1

/-- The kind of the header that is the layout of a record batch. -/
def headerRecordBatch : Nat := 3

namespace Message

/-- The number of tables that may be nested in one another, the message itself included. -/
def maxDepth : Nat := 64

/-- How much of the metadata of a message may be visited. -/
def allowance : Allowance where
  tables := 1000000
  bytes := 2147483648

/-- A reading of the message that a buffer holds. -/
def reading : Reading Message := do
  let t ← tableRef maxDepth 0
  let _ ← t.signed 0 2
  let header ←
    match ← t.choice 1 with
    | none => pure .other
    | some (kind, place) =>
      if kind = headerSchema then schemaAt t.depth place
      else if kind = headerRecordBatch then batchAt t.depth place
      else pure .other
  let bodyLength ← t.signed 3 8
  let _ ← t.value 4 (metadataAt t.depth)
  return ⟨header, bodyLength⟩

/-- The message with the given metadata. -/
def ofMetadata? (b : Bytes) : Option Message :=
  (reading ⟨b.toArray⟩ allowance).map Prod.fst

end Message

end Ipc

end BatchFile
