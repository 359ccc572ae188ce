import BatchFile.Word

/-!
# Exact sums and differences

`Word.sub?` has no value where a difference of words is negative, as `Word.add?` has none where a
sum does not fit.  Where they have a value, the sum or difference that wraps is exact.
-/

namespace BatchFile

namespace Word

/-- The difference of two words, if it is a word. -/
def sub? (a b : UInt64) : Option UInt64 :=
  if b ≤ a then some (a - b) else none

theorem add?_of_lt {a b : UInt64} (h : a.toNat + b.toNat < UInt64.size) :
  add? a b = some (a + b)
  := if_pos h

theorem sub?_of_le {a b : UInt64} (h : b ≤ a) :
  sub? a b = some (a - b)
  := if_pos h

theorem sub?_of_add {a b c : UInt64} (h : a.toNat = b.toNat + c.toNat) :
  sub? a b = some c
  := by
  have hb : b ≤ a := by
    rw [UInt64.le_iff_toNat_le]
    omega
  rw [sub?_of_le hb]
  congr 1
  apply UInt64.toNat_inj.mp
  rw [UInt64.toNat_sub_of_le _ _ hb]
  omega

theorem toNat_add_one {a b : UInt64} (h : a.toNat < b.toNat) :
  (a + 1).toNat = a.toNat + 1
  := by
  have hb := b.toNat_lt
  rw [UInt64.toNat_add, UInt64.toNat_one, Nat.mod_eq_of_lt (by omega)]

end Word

end BatchFile
