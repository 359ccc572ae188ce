import BatchFile.Bytes

/-!
# Variable-length numbers

A word is written as base 128 digits, lowest first, one in each byte; every byte but the
last has its high bit set.  Ten bytes are enough for any word, and the tenth can only be
zero or one.  `Varint.decode` reads a number from the front of a byte string and gives back
what follows it; superfluous zero digits at the end are accepted.
-/

namespace BatchFile

/-- Why a value in wire form cannot be read. -/
inductive WireError where
  /-- The bytes end before the value does. -/
  | endOfBuffer
  /-- A number does not end within ten bytes or does not fit a word. -/
  | unterminatedNumber
deriving DecidableEq, Repr

/-- The wording of a wire error. -/
def WireError.message : WireError → String
  | .endOfBuffer => "Hit the end of buffer, expected more data"
  | .unterminatedNumber =>
    "Found a varint that didn't terminate. Is the usize too big for this platform?"

namespace Varint

/-- The digits of a number, each but the last marked by the high bit. -/
def encodeNat (n : Nat) : Bytes :=
  if n < 128 then [UInt8.ofNat n]
  else UInt8.ofNat (n % 128 + 128) :: encodeNat (n / 128)

/-- The wire form of a word. -/
def encode (n : UInt64) : Bytes :=
  encodeNat n.toNat

/-- The number at the front of the bytes, if it takes at most `k` bytes, and what follows
it.  The last of the `k` bytes must be zero or one. -/
def decodeNat : Nat → Bytes → Except WireError (Nat × Bytes)
  | 0, _ => .error .unterminatedNumber
  | _ + 1, [] => .error .endOfBuffer
  | k + 1, b :: r =>
    if b < 128 then
      if k = 0 ∧ 1 < b then .error .unterminatedNumber else .ok (b.toNat, r)
    else
      match decodeNat k r with
      | .ok (n, r) => .ok (b.toNat - 128 + 128 * n, r)
      | .error e => .error e

/-- The most bytes a word takes. -/
def maxLength : Nat := 10

/-- The word at the front of the bytes and what follows it. -/
def decode (b : Bytes) : Except WireError (UInt64 × Bytes) :=
  match decodeNat maxLength b with
  | .ok (n, r) => .ok (UInt64.ofNat n, r)
  | .error e => .error e

end Varint

end BatchFile
