/-!
# Panics

A computation that can fail does so in one of two ways: it returns an error, or it panics, and then
what has called it comes to an end as well.  Room in a buffer is one reason to panic: no buffer has
more bytes than a signed word counts.
-/

namespace BatchFile

/-- Why a computation panics. -/
inductive Panic where
  /-- A buffer would have more bytes than any buffer can have. -/
  | capacityOverflow
  /-- A sum is not a machine word. -/
  | addOverflow
  /-- A list of the given length has no element at an index. -/
  | indexOutOfBounds (index length : Nat)
deriving DecidableEq, Repr

/-- The wording of a panic. -/
def Panic.message : Panic → String
  | capacityOverflow => "capacity overflow"
  | addOverflow => "attempt to add with overflow"
  | indexOutOfBounds index length =>
    "index out of bounds: the len is " ++ toString length ++ " but the index is "
      ++ toString index

/-- How a computation fails that can return an error. -/
inductive Failure (ε : Type) where
  | returned (error : ε)
  | panicked (panic : Panic)
deriving DecidableEq, Repr

namespace Buffer

/-- Every buffer has fewer bytes than this. -/
def limit : Nat := UInt64.size / 2

theorem lt_size_of_lt {n : Nat} (h : n < limit) :
  n < UInt64.size
  := Nat.lt_trans h (by decide)

/-- The lengths of buffers are machine words. -/
theorem toNat_ofNat_of_lt {n : Nat} (h : n < limit) :
  (UInt64.ofNat n).toNat = n
  := UInt64.toNat_ofNat_of_lt' (lt_size_of_lt h)

/-- Room for so many elements of so many bytes each. -/
def reserve (count bytes : Nat) : Except Panic Unit :=
  if count * bytes < limit then .ok () else .error .capacityOverflow

theorem reserve_of_lt {count bytes : Nat} (h : count * bytes < limit) :
  reserve count bytes = .ok ()
  := if_pos h

theorem reserve_of_le {count bytes : Nat} (h : limit ≤ count * bytes) :
  reserve count bytes = .error .capacityOverflow
  := if_neg (Nat.not_lt.mpr h)

end Buffer

end BatchFile
