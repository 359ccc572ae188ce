import BatchFile.Ipc.Stream
import BatchFile.Ipc.TableWriter

/-!
# Writing streams

`Ipc.encodeSchemaStream` writes a stream that has only a schema, `Ipc.encodeBatchStream` one
with a schema and a record batch.  Every message, every body and every buffer in a body
starts at a multiple of 64 bytes from the start of the stream.
-/

namespace BatchFile

namespace Ipc

open TableWriter

/-- The number that the lengths of messages and of buffers are multiples of. -/
def alignment : Nat := 64

/-- A number as an unsigned number of `width` bytes. -/
def wrapped (width : Nat) (n : Int) : Nat :=
  (n % (Bytes.count width : Nat)).toNat

/-- The version of the metadata. -/
def metadataVersion : Nat := 4

/-- The bytes of a message with a header of the given kind. -/
def encodeMessage (kind : Nat) (header : Writing Place) (body : Bytes) : Bytes :=
  let metadata := buffer do
    let header ← header
    table [
      .number 0 2 metadataVersion,
      .number 1 1 kind,
      .number 3 8 body.length,
      .reference 2 header]
  let front := marker.length + 4
  let zeros := List.replicate (Bytes.padding alignment (front + metadata.length)) 0
  marker ++ Bytes.littleEndian 4 (metadata.length + zeros.length) ++ metadata ++ zeros ++ body

/-- The end of a stream. -/
def endOfStream : Bytes := marker ++ Bytes.littleEndian 4 0

/-! ### Schemas -/

/-- The kind of a type, zero for one without a name. -/
def kindOf : DataType → Nat
  | .null => typeNull
  | .boolean => typeBool
  | .integer _ _ => typeInt
  | .float32 => typeFloatingPoint
  | .float64 => typeFloatingPoint
  | .utf8 => typeUtf8
  | .largeUtf8 => typeLargeUtf8
  | .binary => typeBinary
  | .other _ => 0

/-- The values in the description of a type. -/
def typeEntries : DataType → List Entry
  | .integer signed width =>
    [.number 1 1 (if signed then 1 else 0), .number 0 4 (8 * width.bytes)]
  | .float32 => [.number 0 2 1]
  | .float64 => [.number 0 2 2]
  | _ => []

/-- Writes the description of a type and the empty vector of its children.  A description
with values in it comes in front of the vector, and one without any behind it. -/
def writeType (type : DataType) : Writing (Place × Place) := do
  match typeEntries type with
  | [] =>
    let description ← table []
    let children ← references []
    return (description, children)
  | entries =>
    let children ← references []
    let description ← table entries
    return (description, children)

/-- Writes the description of a field. -/
def writeField (f : Field) : Writing Place := do
  let name ← text (Utf8.encode f.name)
  let (type, children) ← writeType f.type
  table [
    .reference 0 name,
    .number 2 1 (kindOf f.type),
    .number 1 1 (if f.nullable then 1 else 0),
    .reference 5 children,
    .reference 3 type]

/-- Writes the description of an entry of the metadata. -/
def writeMetadataEntry (entry : String × String) : Writing Place := do
  let key ← text (Utf8.encode entry.1)
  let value ← text (Utf8.encode entry.2)
  table [.reference 0 key, .reference 1 value]

/-- Writes the metadata of a schema and gives its value in the description of the schema,
none if there is no metadata. -/
def writeMetadata (metadata : List (String × String)) : Writing (List Entry) := do
  if metadata = [] then return []
  return [.reference 2 (← references (← metadata.mapM writeMetadataEntry))]

/-- Writes the description of a schema. -/
def writeSchema (s : Schema) : Writing Place := do
  let fields ← references (← s.fields.mapM writeField)
  let metadata ← writeMetadata s.metadata
  table (.reference 1 fields :: metadata)

/-- The message of a schema. -/
def encodeSchema (s : Schema) : Bytes :=
  encodeMessage headerSchema (writeSchema s) []

/-- The stream of a schema. -/
def encodeSchemaStream (s : Schema) : Bytes :=
  encodeSchema s ++ endOfStream

/-! ### Record batches -/

/-- The byte of up to eight bits, lowest first. -/
def packByte : List Bool → UInt8
  | [] => 0
  | b :: bs => (if b then 1 else 0) + 2 * packByte bs

/-- The bitmap of a list of bits. -/
def packBits (bs : List Bool) : Bytes :=
  match bs with
  | [] => []
  | b :: bs => packByte (b :: bs.take 7) :: packBits (bs.drop 7)
termination_by bs.length
decreasing_by
  simp only [List.length_drop, List.length_cons]
  omega

/-- The bytes of a value of fixed width. -/
def fixedBytes (width : Nat) : Value → Bytes
  | .integer n => Bytes.littleEndian width (wrapped width n)
  | .float bits => Bytes.littleEndian width bits
  | _ => Bytes.littleEndian width 0

/-- The bytes of a value of variable length. -/
def variableBytes : Value → Bytes
  | .text s => Utf8.encode s
  | .binary b => b
  | _ => []

/-- Whether a value is true. -/
def isTrue : Value → Bool
  | .boolean b => b
  | _ => false

/-- The offsets of values of variable length, the first of which lies at `start`. -/
def offsetsFrom (start : Nat) : List Bytes → List Nat
  | [] => [start]
  | v :: vs => start :: offsetsFrom (start + v.length) vs

/-- The buffers of offsets and of bytes of values of variable length. -/
def variableBuffers (width : Nat) (values : List Value) : List Bytes :=
  let parts := values.map variableBytes
  [(offsetsFrom 0 parts).flatMap (Bytes.littleEndian width), parts.flatten]

/-- The buffers of the stored values of a column. -/
def valueBuffers (c : Column) : List Bytes :=
  match c.type with
  | .null => []
  | .boolean => [packBits (c.storedValues.map isTrue)]
  | .integer _ width => [c.storedValues.flatMap (fixedBytes width.bytes)]
  | .float32 => [c.storedValues.flatMap (fixedBytes 4)]
  | .float64 => [c.storedValues.flatMap (fixedBytes 8)]
  | .utf8 => variableBuffers 4 c.storedValues
  | .largeUtf8 => variableBuffers 8 c.storedValues
  | .binary => variableBuffers 4 c.storedValues
  | .other _ => []

/-- The bitmap of the slots that are not null, which is left empty if none is. -/
def validityBitmap (c : Column) : Bytes :=
  if c.nullCount = 0 then [] else packBits c.validity

/-- The buffers of a column. -/
def columnBuffers (c : Column) : List Bytes :=
  if c.type = .null then [] else validityBitmap c :: valueBuffers c

/-- The node of a column. -/
def columnNode (c : Column) : Nat × Nat :=
  (c.length, if c.type = .null then c.length else c.nullCount)

/-- The places of buffers that lie one after another from `start` on, each filled up to the
alignment. -/
def placesFrom (start : Nat) : List Bytes → List (Nat × Nat)
  | [] => []
  | b :: bs => (start, b.length) :: placesFrom (start + (b.padded alignment).length) bs

/-- The bytes of a pair of numbers. -/
def pairBytes (p : Nat × Nat) : Bytes :=
  Bytes.littleEndian 8 p.1 ++ Bytes.littleEndian 8 p.2

/-- Writes the description of a record batch. -/
def writeBatch (b : RecordBatch) : Writing Place := do
  let buffers ← vector 8 ((placesFrom 0 (b.columns.flatMap columnBuffers)).map pairBytes)
  let nodes ← vector 8 (b.columns.map fun c => pairBytes (columnNode c))
  table [.number 0 8 b.rowCount, .reference 1 nodes, .reference 2 buffers]

/-- The message of a record batch. -/
def encodeBatch (b : RecordBatch) : Bytes :=
  encodeMessage headerRecordBatch (writeBatch b)
    ((b.columns.flatMap columnBuffers).flatMap (Bytes.padded alignment))

/-- The stream of a schema and a record batch. -/
def encodeBatchStream (s : Schema) (b : RecordBatch) : Bytes :=
  encodeSchema s ++ encodeBatch b ++ endOfStream

end Ipc

end BatchFile
