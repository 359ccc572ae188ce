import BatchFile.Storage.Edit

/-!
# Sparse byte strings

A sparse byte string is a sequence of extents, each of which is written bytes or a hole that
holds as many zeros as it is long.  `SparseBytes.toBytes` is the byte string it stands for.
Holes are not spelled out by any operation, so a file may be far longer than what is written
to it.  The main statement is `toBytes_apply`: a change of a sparse byte string changes what
it stands for in the same way.
-/

namespace BatchFile

/-- A part of a file. -/
inductive Extent where
  | data (b : ByteArray)
  | hole (length : Nat)

namespace Extent

/-- The bytes of an extent. -/
def toBytes : Extent → Bytes
  | data b => b.data.toList
  | hole n => List.replicate n 0

/-- The number of bytes. -/
def length : Extent → Nat
  | data b => b.size
  | hole n => n

/-- The first `n` bytes. -/
def take (n : Nat) : Extent → Extent
  | data b => data (b.extract 0 n)
  | hole length => hole (min n length)

/-- All but the first `n` bytes. -/
def drop (n : Nat) : Extent → Extent
  | data b => data (b.extract n b.size)
  | hole length => hole (length - n)

@[simp]
theorem length_toBytes (e : Extent) :
  e.toBytes.length = e.length
  := by
  cases e <;> simp [toBytes, length]

@[simp]
theorem toBytes_take (e : Extent) (n : Nat) :
  (e.take n).toBytes = e.toBytes.take n
  := by
  cases e <;> simp [toBytes, take]

@[simp]
theorem toBytes_drop (e : Extent) (n : Nat) :
  (e.drop n).toBytes = e.toBytes.drop n
  := by
  cases e with
  | data b =>
    have h : (b.data.toList.drop n).length ≤ b.size - n := Nat.le_of_eq List.length_drop
    simp [toBytes, drop, List.take_of_length_le h]
  | hole length => simp [toBytes, drop]

end Extent

/-- A sequence of extents. -/
structure SparseBytes where
  extents : List Extent

namespace SparseBytes

/-- The bytes of a sequence of extents. -/
def toBytes (s : SparseBytes) : Bytes :=
  s.extents.flatMap Extent.toBytes

/-- A byte string without holes. -/
def ofBytes (b : Bytes) : SparseBytes := ⟨[.data ⟨b.toArray⟩]⟩

/-- The number of bytes in extents. -/
def lengthOf : List Extent → Nat
  | [] => 0
  | e :: es => e.length + lengthOf es

/-- The first `n` bytes of extents. -/
def takeFrom (n : Nat) : List Extent → List Extent
  | [] => []
  | e :: es => e.take n :: if n ≤ e.length then [] else takeFrom (n - e.length) es

/-- All but the first `n` bytes of extents. -/
def dropFrom (n : Nat) : List Extent → List Extent
  | [] => []
  | e :: es => if n < e.length then e.drop n :: es else dropFrom (n - e.length) es

/-- The number of bytes. -/
def length (s : SparseBytes) : Nat := lengthOf s.extents

/-- The first `n` bytes. -/
def take (n : Nat) (s : SparseBytes) : SparseBytes := ⟨takeFrom n s.extents⟩

/-- All but the first `n` bytes. -/
def drop (n : Nat) (s : SparseBytes) : SparseBytes := ⟨dropFrom n s.extents⟩

/-- One byte string after another. -/
def append (s t : SparseBytes) : SparseBytes := ⟨s.extents ++ t.extents⟩

/-- Zeros. -/
def zeros (n : Nat) : SparseBytes := ⟨[.hole n]⟩

/-- The byte string cut down, or filled up with zeros, to a length. -/
def resize (length : Nat) (s : SparseBytes) : SparseBytes :=
  (s.take length).append (zeros (length - s.length))

/-- The byte string with bytes put at a position, filled up with zeros to there. -/
def put (position : Nat) (bytes : Bytes) (s : SparseBytes) : SparseBytes :=
  if bytes = [] then s
  else ((s.resize position).append (ofBytes bytes)).append (s.drop (position + bytes.length))

/-- The byte string after a change. -/
def apply (change : FileChange) (s : SparseBytes) : SparseBytes :=
  match change with
  | .put position bytes => s.put position bytes
  | .resize length => s.resize length

/-! ### What the operations stand for -/

@[simp]
theorem toBytes_ofBytes (b : Bytes) :
  (ofBytes b).toBytes = b
  := by
  simp [ofBytes, toBytes, Extent.toBytes]

@[simp]
theorem toBytes_zeros (n : Nat) :
  (zeros n).toBytes = List.replicate n 0
  := by
  simp [zeros, toBytes, Extent.toBytes]

@[simp]
theorem toBytes_append (s t : SparseBytes) :
  (s.append t).toBytes = s.toBytes ++ t.toBytes
  := List.flatMap_append

@[simp]
theorem length_toBytes (s : SparseBytes) :
  s.toBytes.length = s.length
  := by
  obtain ⟨es⟩ := s
  induction es with
  | nil => rfl
  | cons e es ih =>
    simp only [toBytes, length, lengthOf, List.flatMap_cons, List.length_append] at ih ⊢
    rw [ih, Extent.length_toBytes]

@[simp]
theorem toBytes_take (s : SparseBytes) (n : Nat) :
  (s.take n).toBytes = s.toBytes.take n
  := by
  obtain ⟨es⟩ := s
  simp only [take, toBytes]
  induction es generalizing n with
  | nil => simp [takeFrom]
  | cons e es ih =>
    simp only [takeFrom, List.flatMap_cons, List.take_append, Extent.toBytes_take,
      Extent.length_toBytes]
    congr 1
    split
    · rename_i h
      simp [Nat.sub_eq_zero_of_le h]
    · apply ih

@[simp]
theorem toBytes_drop (s : SparseBytes) (n : Nat) :
  (s.drop n).toBytes = s.toBytes.drop n
  := by
  obtain ⟨es⟩ := s
  simp only [drop, toBytes]
  induction es generalizing n with
  | nil => simp [dropFrom]
  | cons e es ih =>
    simp only [dropFrom, List.flatMap_cons, List.drop_append, Extent.length_toBytes]
    split
    · rename_i h
      simp [Nat.sub_eq_zero_of_le (Nat.le_of_lt h)]
    · rename_i h
      have hd : e.toBytes.drop n = [] := by
        apply List.drop_eq_nil_of_le
        rw [Extent.length_toBytes]
        omega
      rw [ih, hd, List.nil_append]

@[simp]
theorem toBytes_resize (s : SparseBytes) (n : Nat) :
  (s.resize n).toBytes = s.toBytes.resize n
  := by
  simp [resize, Bytes.resize]

@[simp]
theorem toBytes_put (s : SparseBytes) (position : Nat) (bytes : Bytes) :
  (s.put position bytes).toBytes = Bytes.put position bytes s.toBytes
  := by
  unfold put Bytes.put
  split
  · rfl
  · simp

/-- A change of a sparse byte string is that change of the bytes it stands for. -/
theorem toBytes_apply (s : SparseBytes) (change : FileChange) :
  (s.apply change).toBytes = change.apply s.toBytes
  := by
  cases change with
  | put position bytes => exact toBytes_put s position bytes
  | resize n => exact toBytes_resize s n

end SparseBytes

end BatchFile
