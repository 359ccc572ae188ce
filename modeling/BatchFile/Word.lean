/-!
# Machine words

Sums and differences of 64-bit words that do not wrap: `Word.add?` has no value where the
sum does not fit, `Word.addCapped` and `Word.subCapped` stop at the largest and the
smallest word.  `Word.isSigned` holds of the words in the lower half.
-/

namespace BatchFile

namespace Word

/-- The sum of two words, if it is a word. -/
def add? (a b : UInt64) : Option UInt64 :=
  if a.toNat + b.toNat < UInt64.size then some (a + b) else none

/-- The largest word. -/
def largest : UInt64 := UInt64.ofNat (UInt64.size - 1)

theorem toNat_largest :
  largest.toNat = UInt64.size - 1
  := rfl

/-- The sum of two words, or the largest word where it does not fit. -/
def addCapped (a b : UInt64) : UInt64 :=
  (add? a b).getD largest

/-- The difference of two words, or zero where it is negative. -/
def subCapped (a b : UInt64) : UInt64 :=
  if b ≤ a then a - b else 0

/-- Whether a word is also a signed one. -/
def isSigned (n : UInt64) : Bool := n.toNat < UInt64.size / 2

theorem toNat_eq_zero_iff {n : UInt64} :
  n.toNat = 0 ↔ n = 0
  := UInt64.toNat_inj (b := 0)

theorem toNat_pos {n : UInt64} (h : n ≠ 0) :
  0 < n.toNat
  := Nat.pos_of_ne_zero (mt toNat_eq_zero_iff.mp h)

theorem add?_eq_some_iff {a b c : UInt64} :
  add? a b = some c ↔ a.toNat + b.toNat = c.toNat
  := by
  have hc : c.toNat < UInt64.size := c.toNat_lt
  unfold add?
  split
  · rename_i h
    constructor
    · intro e
      cases e
      rw [UInt64.toNat_add, Nat.mod_eq_of_lt h]
    · intro e
      congr 1
      apply UInt64.toNat_inj.mp
      rw [UInt64.toNat_add, Nat.mod_eq_of_lt h, e]
  · constructor
    · nofun
    · omega

theorem add?_eq_none_iff {a b : UInt64} :
  add? a b = none ↔ UInt64.size ≤ a.toNat + b.toNat
  := by
  unfold add?
  split <;> simp <;> omega

theorem toNat_addCapped (a b : UInt64) :
  (addCapped a b).toNat = min (a.toNat + b.toNat) (UInt64.size - 1)
  := by
  unfold addCapped add?
  split
  · rename_i h
    rw [Option.getD_some, UInt64.toNat_add, Nat.mod_eq_of_lt h]
    omega
  · rename_i h
    rw [Option.getD_none, toNat_largest]
    omega

theorem toNat_subCapped (a b : UInt64) :
  (subCapped a b).toNat = a.toNat - b.toNat
  := by
  unfold subCapped
  split
  · rename_i h
    exact UInt64.toNat_sub_of_le a b h
  · rename_i h
    have h : a.toNat < b.toNat := UInt64.lt_iff_toNat_lt.mp (by simpa using h)
    simp
    omega

end Word

end BatchFile
