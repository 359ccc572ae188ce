/-!
# Byte strings

A byte string is a list of bytes.  `Bytes.littleEndian w n` is the `w` byte form of the
number `n`, least significant byte first, and `Bytes.toNat` reads it back.
`Bytes.padded` fills a byte string up with zeros to a multiple of an alignment.
-/

namespace BatchFile

/-- A byte string. -/
abbrev Bytes := List UInt8

namespace Bytes

/-- The lowest `w` bytes of `n`, least significant byte first. -/
def littleEndian : Nat → Nat → Bytes
  | 0, _ => []
  | w + 1, n => UInt8.ofNat (n % 256) :: littleEndian w (n / 256)

/-- The number whose bytes are given, least significant byte first. -/
def toNat : Bytes → Nat
  | [] => 0
  | b :: r => b.toNat + 256 * toNat r

@[simp]
theorem length_littleEndian (w n : Nat) :
  (littleEndian w n).length = w
  := by
  induction w generalizing n with
  | zero => rfl
  | succ w ih => simp [littleEndian, ih]

/-- The number of byte strings of `w` bytes. -/
def count : Nat → Nat
  | 0 => 1
  | w + 1 => 256 * count w

theorem toNat_littleEndian (w n : Nat) :
  toNat (littleEndian w n) = n % count w
  := by
  induction w generalizing n with
  | zero => simp [littleEndian, toNat, count, Nat.mod_one]
  | succ w ih =>
    have hb : (UInt8.ofNat (n % 256)).toNat = n % 256 := by
      simp
    rw [littleEndian, toNat, ih, hb, count, Nat.mod_mul]

theorem toNat_lt (b : Bytes) :
  toNat b < count b.length
  := by
  induction b with
  | nil => simp [toNat, count]
  | cons a r ih =>
    have ha := a.toNat_lt
    simp only [toNat, List.length_cons, count]
    omega

theorem littleEndian_toNat (b : Bytes) :
  littleEndian b.length (toNat b) = b
  := by
  induction b with
  | nil => rfl
  | cons a r ih =>
    have ha : a.toNat < 256 := a.toNat_lt
    rw [List.length_cons, littleEndian, toNat, Nat.add_mul_mod_self_left, Nat.mod_eq_of_lt ha,
      UInt8.ofNat_toNat, Nat.add_mul_div_left _ _ (by decide), Nat.div_eq_of_lt ha, Nat.zero_add,
      ih]

/-- The number `n` read as a two's complement number of `w` bytes. -/
def signed (w n : Nat) : Int :=
  if n < count w / 2 then n else (n : Int) - (count w : Nat)

/-- The eight bytes of a machine word, least significant byte first. -/
def ofWord (n : UInt64) : Bytes :=
  littleEndian 8 n.toNat

/-- The machine word with the given bytes, least significant byte first. -/
def toWord (b : Bytes) : UInt64 :=
  UInt64.ofNat (toNat b)

theorem toWord_ofWord (n : UInt64) :
  toWord (ofWord n) = n
  := by
  have h : n.toNat < count 8 := n.toNat_lt
  rw [toWord, ofWord, toNat_littleEndian, Nat.mod_eq_of_lt h, UInt64.ofNat_toNat]

theorem ofWord_toWord {b : Bytes} (h : b.length = 8) :
  ofWord (toWord b) = b
  := by
  have hb : toNat b < UInt64.size := by
    rw [show UInt64.size = count b.length by rw [h]; rfl]
    apply toNat_lt
  rw [ofWord, toWord, UInt64.toNat_ofNat_of_lt' hb, ← h, littleEndian_toNat]

/-- The pieces of the given lengths that a byte string starts with, one after another. -/
def cut : List Nat → Bytes → List Bytes
  | [], _ => []
  | n :: ns, b => b.take n :: cut ns (b.drop n)

/-- The bytes of an ASCII text. -/
def ascii (s : String) : Bytes :=
  s.toList.map fun c => UInt8.ofNat c.toNat

/-- The number of bytes that must follow `n` bytes for a length that is a multiple of
`alignment`. -/
def padding (alignment n : Nat) : Nat :=
  (alignment - n % alignment) % alignment

/-- A byte string followed by zeros up to a length that is a multiple of `alignment`. -/
def padded (alignment : Nat) (b : Bytes) : Bytes :=
  b ++ List.replicate (padding alignment b.length) 0

end Bytes

end BatchFile
