import BatchFile.Bytes

/-!
# Writing table buffers

A table buffer is written from its end to its front, so that whatever a value refers to is
there before the value.  A place is named by its distance from the end of the buffer, which
stays what it is when more is written in front of it.  Tables with equal directories share
one directory, the first that was written.
-/

namespace BatchFile

namespace TableWriter

/-- The end of a table buffer that is being written. -/
structure Draft where
  bytes : Bytes
  size : Nat
  /-- The number that the length of the buffer must be a multiple of. -/
  alignment : Nat
  /-- The directories of tables, each with its place. -/
  directories : List (Bytes × Nat)
  size_eq : size = bytes.length

namespace Draft

/-- The draft with nothing in it. -/
def empty : Draft := ⟨[], 0, 1, [], rfl⟩

/-- The draft with bytes in front of it. -/
def prepend (front : Bytes) (d : Draft) : Draft :=
  ⟨front ++ d.bytes, front.length + d.size, d.alignment, d.directories, by
    rw [List.length_append, d.size_eq]⟩

/-- The place of the directory with the given bytes, if it has been written. -/
def directory? (bytes : Bytes) (d : Draft) : Option Nat :=
  d.directories.lookup bytes

/-- The draft that knows the directory in its front. -/
def withDirectory (bytes : Bytes) (d : Draft) : Draft :=
  { d with directories := (bytes, d.size) :: d.directories }

end Draft

/-- A place in a buffer: its distance from the end. -/
abbrev Place := Nat

/-- A step of the writing of a buffer. -/
abbrev Writing := StateM Draft

/-- Puts bytes in front and gives their place. -/
def put (front : Bytes) : Writing Place := do
  modify (·.prepend front)
  return (← get).size

/-- Fills up with zeros, so that `count` more bytes will lie at a multiple of
`alignment`. -/
def align (alignment count : Nat) : Writing Unit :=
  modify fun d =>
    ({ d with alignment := max d.alignment alignment } : Draft).prepend
      (List.replicate (Bytes.padding alignment (d.size + count)) 0)

/-- Writes a number of `width` bytes. -/
def number (width value : Nat) : Writing Place := do
  align width width
  put (Bytes.littleEndian width value)

/-- Writes a reference to a place. -/
def reference (target : Place) : Writing Place := do
  align 4 4
  let place := (← get).size + 4
  put (Bytes.littleEndian 4 (place - target))

/-- Writes a text, with a zero behind it. -/
def text (bytes : Bytes) : Writing Place := do
  align 4 (bytes.length + 1)
  let _ ← put (bytes ++ [0])
  number 4 bytes.length

/-- Writes a vector of elements that refer to nothing. -/
def vector (alignment : Nat) (elements : List Bytes) : Writing Place := do
  align alignment elements.flatten.length
  let _ ← put elements.flatten
  number 4 elements.length

/-- Writes a vector of references. -/
def references (targets : List Place) : Writing Place := do
  align 4 (4 * targets.length)
  let _ ← targets.reverse.mapM reference
  number 4 targets.length

/-- The value of a slot of a table. -/
inductive Entry where
  /-- A number of the given width. -/
  | number (slot width value : Nat)
  /-- A reference to a place. -/
  | reference (slot : Nat) (target : Place)

/-- Writes the value of a slot and gives the slot and the place of the value, none for a
number that is zero, which is the value of an absent slot. -/
def Entry.write : Entry → Writing (Option (Nat × Place))
  | number slot width value => do
    if value = 0 then return none
    return some (slot, ← TableWriter.number width value)
  | reference slot target => do
    return some (slot, ← TableWriter.reference target)

/-- The number of slots up to the last one that has a value. -/
def slotCount (values : List (Nat × Place)) : Nat :=
  values.foldl (fun count value => max count (value.1 + 1)) 0

/-- The directory of a table at the given place whose values lie at the given places, with
`tail` bytes behind all of them. -/
def directory (values : List (Nat × Place)) (tail : Nat) (place : Place) : Bytes :=
  Bytes.littleEndian 2 (4 + 2 * slotCount values)
    ++ Bytes.littleEndian 2 (place - tail)
    ++ (List.range (slotCount values)).flatMap fun slot =>
      Bytes.littleEndian 2
        (match values.lookup slot with
          | some value => place - value
          | none => 0)

/-- Writes a table with the given values, the last of which comes first. -/
def table (entries : List Entry) : Writing Place := do
  let tail := (← get).size
  let values := (← entries.mapM Entry.write).filterMap id
  align 4 4
  let place := (← get).size + 4
  let directory := directory values tail place
  match (← get).directory? directory with
  | some known =>
    -- The distance to a directory further on is negative.
    put (Bytes.littleEndian 4 (Bytes.count 4 + known - place))
  | none =>
    let _ ← put (Bytes.littleEndian 4 directory.length)
    let _ ← put directory
    modify (·.withDirectory directory)
    return place

/-- The buffer whose first reference leads to the place that is written last. -/
def buffer (root : Writing Place) : Bytes :=
  let writing : Writing Unit := do
    let root ← root
    align (← get).alignment 4
    let _ ← reference root
  (writing.run .empty).2.bytes

end TableWriter

end BatchFile
