import BatchFile.Proofs.Reader.Plan
import BatchFile.RowRange
import Mathlib.Algebra.Order.Floor.Div

/-!
# Splitting rows

Rows are split unless there cannot be room for so many ranges (`RowRange.split_eq_error_iff`).  The
ranges that all rows of a file are split into are ranges that the file has
(`RowRange.checkRange_of_mem_split`), and their rows, one range after another, are all rows
(`RowRange.flatMap_split`).  A chunk has as many rows as a shard of the rows has, rounded up
(`RowRange.toNat_ceilDiv`).
-/

namespace BatchFile

namespace RowRange

variable {chunk recordCount shards start : UInt64} {r : RowRange} {rs : List RowRange} {α : Type}

theorem toNat_min (a b : UInt64) :
  (min a b).toNat = min a.toNat b.toNat
  := by
  simp only [min, UInt64.le_iff_toNat_le]
  split <;> rfl

theorem toNat_max (a b : UInt64) :
  (max a b).toNat = max a.toNat b.toNat
  := by
  simp only [max, UInt64.le_iff_toNat_le]
  split <;> rfl

/-- The length of a chunk. -/
theorem toNat_min_sub (h : start < recordCount) :
  (min chunk (recordCount - start)).toNat = min chunk.toNat (recordCount.toNat - start.toNat)
  := by rw [toNat_min, UInt64.toNat_sub_of_le _ _ (UInt64.le_of_lt h)]

theorem checkRange_of_mem_chunks (h : r ∈ chunks chunk recordCount start) :
  Reader.checkRange recordCount r = .ok ()
  := by
  induction start using chunks.induct chunk recordCount with
  | case1 start hc _ ih =>
    rw [chunks, dif_pos hc] at h
    rcases List.mem_cons.mp h with rfl | h
    · have hs := UInt64.lt_iff_toNat_lt.mp hc.1
      apply Reader.checkRange_eq_ok_iff.mpr
      use .inl hs
      rw [RowRange.behind, toNat_min_sub hc.1]
      simp only
      omega
    · exact ih h
  | case2 start hc =>
    rw [chunks, dif_neg hc] at h
    cases h

/-- The chunks of the rows from a start on are these rows. -/
theorem flatMap_chunks (rows : List α) (hc : 0 < chunk) (start : UInt64) :
  (chunks chunk recordCount start).flatMap (fun r => (rows.drop r.start.toNat).take r.limit.toNat)
    = (rows.drop start.toNat).take (recordCount.toNat - start.toNat)
  := by
  induction start using chunks.induct chunk recordCount with
  | case1 start h _ ih =>
    rw [chunks, dif_pos h, List.flatMap_cons, ih, toNat_chunk_end h.1, toNat_min_sub h.1,
      ← List.drop_drop, ← List.take_add]
    congr 1
    omega
  | case2 start h =>
    have hs : ¬ start.toNat < recordCount.toNat := fun hs =>
      h ⟨UInt64.lt_iff_toNat_lt.mpr hs, hc⟩
    rw [chunks, dif_neg h, Nat.sub_eq_zero_of_le (Nat.le_of_not_lt hs), List.take_zero,
      List.flatMap_nil]

/-! ### Chunks for a number of shards -/

/-- A quotient of words is rounded up as that of integers. -/
theorem toNat_ceilDiv {a b : UInt64} (hb : b ≠ 0) :
  (ceilDiv a b).toNat = a.toNat ⌈/⌉ b.toNat
  := by
  have hb := Word.toNat_pos hb
  have hm := UInt64.toNat_mod a b
  have hd := Nat.div_add_mod a.toNat b.toNat
  have hlt := Nat.mod_lt a.toNat hb
  rw [ceilDiv, Nat.ceilDiv_eq_add_pred_div, eq_comm]
  split
  · rename_i h
    rw [h, UInt64.toNat_zero] at hm
    rw [UInt64.toNat_div]
    apply Nat.div_eq_of_lt_le
    · rw [Nat.mul_comm]
      omega
    · rw [Nat.mul_comm, Nat.mul_add]
      omega
  · rename_i h
    -- something is left over, so the divisor is not one and the quotient not the largest word
    have hr : a.toNat % b.toNat ≠ 0 := by
      rw [← hm]
      exact mt Word.toNat_eq_zero_iff.mp h
    have h1 : b.toNat ≠ 1 := by
      intro h1
      rw [h1, Nat.mod_one] at hr
      exact hr rfl
    have hq := Nat.div_lt_self (show 0 < a.toNat by omega) (show 1 < b.toNat by omega)
    have ha := a.toNat_lt
    rw [UInt64.toNat_add, UInt64.toNat_div, UInt64.toNat_one, Nat.mod_eq_of_lt (by omega)]
    apply Nat.div_eq_of_lt_le
    · rw [Nat.mul_comm, Nat.mul_add]
      omega
    · rw [Nat.mul_comm, Nat.mul_add, Nat.mul_add]
      omega

/-- Rounded up, a quotient of words that are not zero is not zero either. -/
theorem ceilDiv_pos {a b : UInt64} (ha : a ≠ 0) (hb : b ≠ 0) :
  0 < ceilDiv a b
  := by
  rw [UInt64.lt_iff_toNat_lt, toNat_ceilDiv hb]
  apply Nat.pos_of_ne_zero
  intro h
  have h := (ceilDiv_le_iff_le_mul (Word.toNat_pos hb)).mp (Nat.le_of_eq h)
  rw [Nat.mul_zero] at h
  exact ha (Word.toNat_eq_zero_iff.mp (Nat.eq_zero_of_le_zero h))

/-- The number of shards to split rows for: not more than there are rows, but at least one. -/
def shardCount (recordCount shards : UInt64) : Nat :=
  max 1 (min shards.toNat recordCount.toNat)

theorem toNat_shards (hr : recordCount ≠ 0) :
  (min (max shards 1) recordCount).toNat = shardCount recordCount shards
  := by
  have hr := Word.toNat_pos hr
  rw [toNat_min, toNat_max, UInt64.toNat_one, shardCount]
  omega

theorem shards_ne_zero (hr : recordCount ≠ 0) :
  min (max shards 1) recordCount ≠ 0
  := by
  rw [ne_eq, ← Word.toNat_eq_zero_iff, toNat_shards hr, shardCount]
  omega

/-- Every file has the range of all its rows. -/
theorem checkRange_all (recordCount : UInt64) :
  Reader.checkRange recordCount ⟨0, recordCount⟩ = .ok ()
  := by
  apply Reader.checkRange_eq_ok_iff.mpr
  constructor
  · by_cases h : recordCount = 0
    · exact .inr ⟨rfl, h⟩
    · exact .inl (Word.toNat_pos h)
  · exact Nat.le_of_eq (Nat.zero_add _)

/-- Rows are split into chunks if there is room for as many ranges as there are shards. -/
theorem split_of_ne_zero (hr : recordCount ≠ 0) :
  split recordCount shards
    = if shardCount recordCount shards * byteSize < Buffer.limit then
        .ok (chunks (ceilDiv recordCount (min (max shards 1) recordCount)) recordCount 0)
      else .error .capacityOverflow
  := by
  rw [split, if_neg hr]
  simp only
  rw [toNat_shards hr, Buffer.reserve]
  split <;> rfl

theorem split_eq_ok_iff :
  split recordCount shards = .ok rs
    ↔ (recordCount = 0 ∧ rs = [⟨0, 0⟩])
      ∨ (recordCount ≠ 0 ∧ shardCount recordCount shards * byteSize < Buffer.limit
        ∧ rs = chunks (ceilDiv recordCount (min (max shards 1) recordCount)) recordCount 0)
  := by
  by_cases hr : recordCount = 0
  · simp [split, hr, eq_comm]
  · rw [split_of_ne_zero hr]
    split <;> simp_all [eq_comm]

/-- Splitting panics just if the list of ranges would be too large. -/
theorem split_eq_error_iff {p : Panic} :
  split recordCount shards = .error p
    ↔ p = .capacityOverflow ∧ recordCount ≠ 0
      ∧ Buffer.limit ≤ shardCount recordCount shards * byteSize
  := by
  by_cases hr : recordCount = 0
  · simp [split, hr]
  · rw [split_of_ne_zero hr]
    split <;> simp_all [eq_comm]

theorem checkRange_of_mem_split (h : split recordCount shards = .ok rs) (hr : r ∈ rs) :
  Reader.checkRange recordCount r = .ok ()
  := by
  rcases split_eq_ok_iff.mp h with ⟨rfl, rfl⟩ | ⟨-, -, rfl⟩
  · obtain rfl := List.mem_singleton.mp hr
    apply checkRange_all 0
  · exact checkRange_of_mem_chunks hr

/-- All rows are those of the ranges that they are split into, one after another. -/
theorem flatMap_split (rows : List α) (h : split recordCount shards = .ok rs) :
  rs.flatMap (fun r => (rows.drop r.start.toNat).take r.limit.toNat) = rows.take recordCount.toNat
  := by
  rcases split_eq_ok_iff.mp h with ⟨rfl, rfl⟩ | ⟨hz, -, rfl⟩
  · rfl
  · rw [flatMap_chunks rows (ceilDiv_pos hz (shards_ne_zero hz))]
    rfl

end RowRange

end BatchFile
