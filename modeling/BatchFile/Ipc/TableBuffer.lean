import BatchFile.Bytes

/-!
# Table buffers

A table buffer is a byte string in which tables, vectors and texts refer to one another by
offsets from the place of the reference forward.  A table starts with the distance to its
directory, which gives for each slot of the table the place of its value in the table, or
zero for an absent value.  Numbers lie at positions that are multiples of their width.

Everything that is read is checked to lie inside the buffer.  A short buffer can refer to
the same table from many places, so how much a reading visits is limited too, and so is the
depth to which tables are nested.
-/

namespace BatchFile

namespace TableBuffer

/-- The bytes of a table buffer. -/
abbrev Buffer := ByteArray

/-- How much a reading may still visit. -/
structure Allowance where
  tables : Nat
  /-- The number of bytes, where every byte counts as often as it is visited. -/
  bytes : Nat

/-- A reading of a buffer.  It fails where the buffer is malformed and where more would be
visited than is allowed. -/
abbrev Reading := ReaderT Buffer (StateT Allowance Option)

/-- Visits `count` bytes from a position on. -/
def visit (position count : Nat) : Reading Unit := fun b left =>
  if position + count ≤ b.size ∧ count ≤ left.bytes then
    some ((), { left with bytes := left.bytes - count })
  else none

/-- Visits a table. -/
def visitTable : Reading Unit := fun _ left =>
  if left.tables = 0 then none else some ((), { left with tables := left.tables - 1 })

/-- The bytes of a part of a buffer. -/
def bytesAt (b : Buffer) (position count : Nat) : Bytes :=
  (b.extract position (position + count)).data.toList

/-- The unsigned number of `width` bytes at a position. -/
def number (width position : Nat) : Reading Nat := do
  guard (position % width = 0)
  visit position width
  return Bytes.toNat (bytesAt (← read) position width)

/-- The position that the reference at a position leads to. -/
def follow (position : Nat) : Reading Nat := do
  return position + (← number 4 position)

/-- A table in a buffer. -/
structure Table where
  /-- Where the table starts. -/
  position : Nat
  /-- Where its directory starts. -/
  directory : Nat
  /-- The length of its directory. -/
  size : Nat
  /-- How deep other tables may be nested in it. -/
  depth : Nat

/-- The table at a position, where tables may be nested `depth` deep. -/
def tableAt (depth position : Nat) : Reading Table := do
  let distance ← number 4 position
  let directory := (position : Int) - Bytes.signed 4 distance
  guard (0 ≤ directory ∧ directory < (← read).size)
  let size ← number 2 directory.toNat
  guard (size % 2 = 0)
  visit directory.toNat size
  visitTable
  guard (depth ≠ 0)
  return ⟨position, directory.toNat, size, depth - 1⟩

namespace Table

variable {α : Type}

/-- The position of the value in a slot, if there is one. -/
def slot (t : Table) (index : Nat) : Reading (Option Nat) := do
  if t.size ≤ 4 + 2 * index then return none
  let place ← number 2 (t.directory + 4 + 2 * index)
  return if place = 0 then none else some (t.position + place)

/-- The value in a slot, read by `read` if it is present. -/
def value (t : Table) (index : Nat) (read : Nat → Reading α) : Reading (Option α) := do
  match ← t.slot index with
  | none => return none
  | some position => return some (← read position)

/-- The unsigned number in a slot, zero if it is absent. -/
def unsigned (t : Table) (index width : Nat) : Reading Nat := do
  return (← t.value index (number width)).getD 0

/-- The signed number in a slot, zero if it is absent. -/
def signed (t : Table) (index width : Nat) : Reading Int := do
  return Bytes.signed width (← t.unsigned index width)

/-- The value of a choice: the number of the alternative in slot `index` and the place of
the value in the slot after it.  Either both are there or none. -/
def choice (t : Table) (index : Nat) : Reading (Option (Nat × Nat)) := do
  match ← t.slot index, ← t.slot (index + 1) with
  | none, none => return none
  | some kind, some value => return some (← number 1 kind, value)
  | _, _ => failure

end Table

/-- The first position and the length of the vector of elements of `width` bytes that the
reference at a position leads to. -/
def vectorAt (alignment width position : Nat) : Reading (Nat × Nat) := do
  let position ← follow position
  let length ← number 4 position
  guard ((position + 4) % alignment = 0)
  visit (position + 4) (length * width)
  return (position + 4, length)

/-- The text that the reference at a position leads to: valid, and followed by a zero. -/
def textAt (position : Nat) : Reading String := do
  let (start, length) ← vectorAt 1 1 position
  let b ← read
  guard (b[start + length]? = some 0)
  match String.fromUTF8? (b.extract start (start + length)) with
  | some text => return text
  | none => failure

/-- The positions that the elements of a vector of references lead to. -/
def referencesAt (position : Nat) : Reading (List Nat) := do
  let (start, length) ← vectorAt 4 4 position
  (List.range length).mapM fun i => follow (start + 4 * i)

/-- The elements of a vector of pairs of signed numbers of eight bytes. -/
def pairsAt (position : Nat) : Reading (List (Int × Int)) := do
  let (start, length) ← vectorAt 1 16 position
  let b ← read
  let signedAt (position : Nat) := Bytes.signed 8 (Bytes.toNat (bytesAt b position 8))
  return (List.range length).map fun i =>
    (signedAt (start + 16 * i), signedAt (start + 16 * i + 8))

/-- The table that the reference at a position leads to. -/
def tableRef (depth position : Nat) : Reading Table := do
  tableAt depth (← follow position)

end TableBuffer

end BatchFile
