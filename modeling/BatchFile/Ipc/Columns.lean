import BatchFile.Column.Batch
import BatchFile.Ipc.Message
import BatchFile.Text.Utf8

/-!
# Columns from the body of a message

The layout of a record batch lists a node for each column and the buffers of all columns, in
the order of the fields.  A column takes the first node and as many buffers as its type has:
a bitmap of the slots that are not null, then the values; texts and byte strings have the
offsets of the values before their bytes.  Buffers and nodes that are left over play no
part.
-/

namespace BatchFile

namespace Ipc

/-- The bits of a byte, lowest first. -/
def byteBits (b : UInt8) : List Bool :=
  (List.range 8).map b.toNat.testBit

/-- The first `n` bits of a bitmap, if it has as many. -/
def bits? (n : Nat) (b : Bytes) : Option (List Bool) :=
  let size := (n + 7) / 8
  if size ≤ b.length then some (((b.take size).flatMap byteBits).take n) else none

/-- The first `n` numbers of `width` bytes, if there are as many. -/
def numbers? (width n : Nat) (b : Bytes) : Option (List Nat) :=
  if n * width ≤ b.length then some ((b.cut (List.replicate n width)).map Bytes.toNat) else none

/-- The steps from `last` to the first of the given numbers and from each of them to the next,
if they do not decrease. -/
def steps? (last : Nat) : List Int → Option (List Nat)
  | [] => some []
  | n :: ns =>
    if last ≤ n then (steps? n.toNat ns).map fun steps => (n.toNat - last) :: steps else none

/-- The number of bytes before `n` values of variable length in a buffer of `limit` bytes and
the lengths of the values, from the buffer of their offsets, which is `width` bytes for each.
Without values there need not be any offset. -/
def lengths? (width n limit : Nat) (offsets : Bytes) : Option (List Nat) :=
  if n = 0 ∧ offsets = [] then some []
  else do
    let ends := (← numbers? width (n + 1) offsets).map (Bytes.signed width)
    if ends.all (· ≤ (limit : Int)) then steps? 0 ends else none

/-- The values in a buffer, from the number of bytes before them and their lengths. -/
def pieces (bytes : Bytes) (lengths : List Nat) : List Bytes :=
  (bytes.cut lengths).tail

/-- The texts in a buffer, from the number of bytes before them and their lengths.  Each must
be valid; if the whole buffer is, each must also lie between two characters of it, even if it
is empty. -/
def texts? (bytes : Bytes) (lengths : List Nat) : Option (List Value) :=
  let texts := pieces bytes lengths
  if texts ≠ [] && Utf8.isValid bytes && !Utf8.cutsBetween lengths bytes then none
  else texts.mapM fun b => (Utf8.text? b).map .text

/-- The slots with the given stored values, valid where the bitmap says so, if the bitmap has
the given number of nulls; without nulls the bitmap is not looked at. -/
def slots? (nulls : Int) (bitmap : Bytes) (values : List Value) : Option (List Slot) :=
  if nulls ≤ 0 then some (values.map fun v => ⟨true, v⟩)
  else do
    let valid ← bits? values.length bitmap
    if (valid.countP (!·) : Int) ≠ nulls then none
    return (valid.zip values).map fun (valid, v) => ⟨valid, v⟩

/-- The number of buffers of a column. -/
def bufferCount : DataType → Nat
  | .null => 0
  | .utf8 => 3
  | .largeUtf8 => 3
  | .binary => 3
  | _ => 2

/-- The stored values of a column with `n` slots, from its buffers after the bitmap.  The null
type stores none, and how a type without a name stores its values is not known here. -/
def storedValues? (t : DataType) (n : Nat) (buffers : List Bytes) : Option (List Value) :=
  let first := buffers.getD 0 []
  let second := buffers.getD 1 []
  match t with
  | .null => none
  | .boolean => (bits? n first).map fun bs => bs.map .boolean
  | .integer true w =>
    (numbers? w.bytes n first).map fun ns => ns.map fun n => .integer (Bytes.signed w.bytes n)
  | .integer false w =>
    (numbers? w.bytes n first).map fun ns => ns.map fun n => .integer (n : Nat)
  | .float32 => (numbers? 4 n first).map fun ns => ns.map .float
  | .float64 => (numbers? 8 n first).map fun ns => ns.map .float
  | .utf8 => (lengths? 4 n second.length first).bind (texts? second)
  | .largeUtf8 => (lengths? 8 n second.length first).bind (texts? second)
  | .binary =>
    (lengths? 4 n second.length first).map fun lengths => (pieces second lengths).map .binary
  | .other _ => none

/-- The machine word with the bits of a signed number, as a count. -/
def countOf (n : Int) : Nat := (n % (UInt64.size : Nat)).toNat

/-- The column with the given node and buffers.  In a column of the null type every slot is
null, and the node says so. -/
def columnOf? (t : DataType) (node : Int × Int) (buffers : List Bytes) : Option Column :=
  let (length, nulls) := node
  if h : t = .null then
    if length = nulls then some (.nulls (countOf length)) else none
  else do
    let values ← storedValues? t (countOf length) buffers.tail
    let slots ← slots? nulls (buffers.headD []) values
    return .slots t slots h

/-- The buffer at the given place of the body. -/
def buffer? (body : ByteArray) (place : Int × Int) : Option Bytes :=
  let (offset, length) := place
  if 0 ≤ offset ∧ 0 ≤ length ∧ offset + length ≤ body.size then
    some (TableBuffer.bytesAt body offset.toNat length.toNat)
  else none

/-- The first `n` elements and the others, if there are as many. -/
def splitAt? {α : Type} (n : Nat) (xs : List α) : Option (List α × List α) :=
  if n ≤ xs.length then some (xs.take n, xs.drop n) else none

/-- The columns of the given fields, from the nodes, the places of the buffers and the
body. -/
def columns? (body : ByteArray) :
    List Field → List (Int × Int) → List (Int × Int) → Option (List Column)
  | [], _, _ => some []
  | _ :: _, [], _ => none
  | f :: fs, node :: nodes, places => do
    let (mine, places) ← splitAt? (bufferCount f.type) places
    let buffers ← mine.mapM (buffer? body)
    let c ← columnOf? f.type node buffers
    let cs ← columns? body fs nodes places
    return c :: cs

/-- The record batch with the given layout and body. -/
def recordBatch? (s : Schema) (layout : BatchLayout) (body : Bytes) : Option RecordBatch := do
  let columns ← columns? ⟨body.toArray⟩ s.fields layout.nodes layout.buffers
  RecordBatch.ofColumns? s columns (countOf layout.length)

end Ipc

end BatchFile
