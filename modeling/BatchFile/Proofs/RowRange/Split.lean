import BatchFile.Proofs.RowRange
import Mathlib.Data.List.Chain

/-!
# Splitting rows in rounds

Rows are split in rounds, each of which cuts one range off the rows that are left
(`RowRange.Rounds`).  If chunks have rows, the rounds come to an end and cut what
`RowRange.chunks` gives (`RowRange.rounds_chunks`).  The ranges that are cut partition the rows of
the file (`RowRange.split_partitions`).
-/

namespace BatchFile

namespace RowRange

variable {chunk recordCount shards start limit : UInt64} {r : RowRange} {rs : List RowRange}

/-! ### Rounds -/

/-- Rounds from a start on.  While the start lies in the file, a round cuts a range of the length of
a chunk, or else of all rows that are left, and moves the start behind it, which makes an exact
sum. -/
inductive Rounds (chunk recordCount : UInt64) : UInt64 → List RowRange → Prop where
  | done {start : UInt64} (h : ¬ start < recordCount) :
    Rounds chunk recordCount start []
  | round {start limit : UInt64} {rs : List RowRange} (h : start < recordCount)
      (hl : limit = min chunk (recordCount - start))
      (hs : start.toNat + limit.toNat < UInt64.size)
      (hr : Rounds chunk recordCount (start + limit) rs) :
    Rounds chunk recordCount start (⟨start, limit⟩ :: rs)

/-- If chunks have rows, the rounds come to an end, having cut the rows into chunks. -/
theorem rounds_chunks (hc : 0 < chunk) (start : UInt64) :
  Rounds chunk recordCount start (chunks chunk recordCount start)
  := by
  induction start using chunks.induct chunk recordCount with
  | case1 start h _ ih =>
    rw [chunks, dif_pos h]
    refine .round h.1 rfl ?_ ih
    rw [toNat_min_sub h.1, ← toNat_chunk_end h.1]
    apply UInt64.toNat_lt
  | case2 start h =>
    rw [chunks, dif_neg h]
    exact .done fun hs => h ⟨hs, hc⟩

namespace Rounds

/-- The new start, as an integer. -/
theorem toNat_next (hs : start.toNat + limit.toNat < UInt64.size) :
  (start + limit).toNat = start.toNat + limit.toNat
  := by rw [UInt64.toNat_add, Nat.mod_eq_of_lt hs]

/-- The length that a round cuts from the rows that are left, as an integer. -/
theorem toNat_limit (h : start < recordCount) (hl : limit = min chunk (recordCount - start)) :
  start.toNat < recordCount.toNat
    ∧ limit.toNat = min chunk.toNat (recordCount.toNat - start.toNat)
  := ⟨UInt64.lt_iff_toNat_lt.mp h, by rw [hl, toNat_min_sub h]⟩

theorem ne_nil (h : Rounds chunk recordCount start rs) (hs : start < recordCount) :
  rs ≠ []
  := by
  cases h with
  | done h => exact (h hs).elim
  | round _ _ _ _ => apply List.cons_ne_nil

theorem start_of_mem_head? (h : Rounds chunk recordCount start rs) (hr : r ∈ rs.head?) :
  r.start = start
  := by
  cases h with
  | done _ => cases hr
  | round _ _ _ _ =>
    cases hr
    rfl

/-- Each range starts where the one before it ends. -/
theorem isChain (h : Rounds chunk recordCount start rs) :
  rs.IsChain fun r r' => r'.start.toNat = r.behind
  := by
  induction h with
  | done _ => exact .nil
  | round _ _ hs h ih =>
    apply ih.cons
    intro r' hr
    rw [h.start_of_mem_head? hr, toNat_next hs, behind]

/-- The last range ends with the rows. -/
theorem behind_of_mem_getLast? (h : Rounds chunk recordCount start rs) (hr : r ∈ rs.getLast?) :
  r.behind = recordCount.toNat
  := by
  induction h with
  | done _ => cases hr
  | @round start limit _ hlt hl hs h ih =>
    cases h with
    | done hn =>
      rw [List.getLast?_singleton] at hr
      cases hr
      rw [UInt64.lt_iff_toNat_lt, toNat_next hs] at hn
      obtain ⟨hlt, hm⟩ := toNat_limit hlt hl
      rw [behind]
      simp only
      omega
    | round _ _ _ _ => exact ih hr

theorem limit_pos (h : Rounds chunk recordCount start rs) (hc : 0 < chunk) (hr : r ∈ rs) :
  1 ≤ r.limit.toNat
  := by
  induction h with
  | done _ => cases hr
  | round hlt hl _ _ ih =>
    rcases List.mem_cons.mp hr with rfl | hr
    · obtain ⟨hlt, hm⟩ := toNat_limit hlt hl
      rw [UInt64.lt_iff_toNat_lt, UInt64.toNat_zero] at hc
      simp only
      omega
    · exact ih hr

theorem limit_le (h : Rounds chunk recordCount start rs) (hr : r ∈ rs) :
  r.limit.toNat ≤ chunk.toNat
  := by
  induction h with
  | done _ => cases hr
  | round hlt hl _ _ ih =>
    rcases List.mem_cons.mp hr with rfl | hr
    · rw [(toNat_limit hlt hl).2]
      apply Nat.min_le_left
    · exact ih hr

/-- All ranges but the last one are chunks. -/
theorem limit_of_mem_dropLast (h : Rounds chunk recordCount start rs) (hr : r ∈ rs.dropLast) :
  r.limit.toNat = chunk.toNat
  := by
  induction h with
  | done _ => cases hr
  | round hlt hl hs h ih =>
    cases h with
    | done _ => cases hr
    | round hlt' _ _ _ =>
      rcases List.mem_cons.mp hr with rfl | hr
      · -- rows are left, so this round has not cut all of them
        rw [UInt64.lt_iff_toNat_lt, toNat_next hs] at hlt'
        obtain ⟨-, hm⟩ := toNat_limit hlt hl
        simp only
        omega
      · exact ih hr

/-- There are as many rounds as it takes chunks to cover the rows that are left. -/
theorem length_le {k : Nat} (h : Rounds chunk recordCount start rs)
    (hk : recordCount.toNat - start.toNat ≤ k * chunk.toNat) :
  rs.length ≤ k
  := by
  induction h generalizing k with
  | done _ => apply Nat.zero_le
  | round hlt hl hs h ih =>
    obtain ⟨hlt, hm⟩ := toNat_limit hlt hl
    cases k with
    | zero => omega
    | succ k =>
      apply Nat.succ_le_succ
      apply ih
      rw [toNat_next hs]
      rw [Nat.succ_mul] at hk
      omega

end Rounds

/-! ### Partitions -/

/-- Ranges partition so many rows into at most so many shards: there is a first one and it starts at
row zero; each one starts behind the one before it; the last one ends with the rows.  All of them
have rows, as many as a chunk has, but for the last one, which may have fewer. -/
structure Partitions (recordCount shards chunk : Nat) (rs : List RowRange) : Prop where
  ne_nil : rs ≠ []
  start : ∀ r ∈ rs.head?, r.start = 0
  contiguous : rs.IsChain fun r r' => r'.start.toNat = r.behind
  behind : ∀ r ∈ rs.getLast?, r.behind = recordCount
  limit_pos : ∀ r ∈ rs, 1 ≤ r.limit.toNat
  length_le : rs.length ≤ shards
  limit_eq : ∀ r ∈ rs.dropLast, r.limit.toNat = chunk
  limit_le : ∀ r ∈ rs.getLast?, r.limit.toNat ≤ chunk

/-- Rounds from the first row on partition all rows, if so many chunks cover them. -/
theorem Rounds.partitions {k : Nat} (h : Rounds chunk recordCount 0 rs) (hr : recordCount ≠ 0)
    (hc : 0 < chunk) (hk : recordCount.toNat ≤ k * chunk.toNat) :
  Partitions recordCount.toNat k chunk.toNat rs
  where
  ne_nil := h.ne_nil (Word.toNat_pos hr)
  start _ := h.start_of_mem_head?
  contiguous := h.isChain
  behind _ := h.behind_of_mem_getLast?
  limit_pos _ := h.limit_pos hc
  length_le := h.length_le hk
  limit_eq _ := h.limit_of_mem_dropLast
  limit_le _ hr := h.limit_le (List.mem_of_mem_getLast? hr)

/-- The ranges that rows are split into come from rounds, and they partition the rows. -/
theorem partitions_of_split (h : split recordCount shards = .ok rs) (hr : recordCount ≠ 0) :
  (∃ chunk, chunk.toNat = recordCount.toNat ⌈/⌉ shardCount recordCount shards
    ∧ Rounds chunk recordCount 0 rs)
  ∧ Partitions recordCount.toNat (shardCount recordCount shards)
    (recordCount.toNat ⌈/⌉ shardCount recordCount shards) rs
  := by
  obtain ⟨h0, -⟩ | ⟨-, -, rfl⟩ := split_eq_ok_iff.mp h
  · exact (hr h0).elim
  have hn : min (max shards 1) recordCount ≠ 0 := shards_ne_zero hr
  have hc := ceilDiv_pos hr hn
  have hd : (ceilDiv recordCount (min (max shards 1) recordCount)).toNat
      = recordCount.toNat ⌈/⌉ shardCount recordCount shards := by
    rw [toNat_ceilDiv hn, toNat_shards hr]
  rw [← hd]
  use ⟨_, rfl, rounds_chunks hc 0⟩
  apply (rounds_chunks hc 0).partitions hr hc
  -- so many shards cover all rows, since their size has been rounded up
  rw [hd]
  apply (ceilDiv_le_iff_le_mul (Nat.le_max_left _ _)).mp (Nat.le_refl _)

/-- Splitting rows panics just if there are rows and the list of ranges for so many shards would
have more bytes than any buffer can have, which is from 2 ^ 59 shards on.  Otherwise the rounds come
to an end, and the ranges that they cut partition the rows into at most as many shards as asked for,
where a chunk is a shard of the rows, rounded up.  For no rows there is one range without rows.  In
any case, the file has the ranges that are given. -/
theorem split_partitions (recordCount shards : UInt64) :
  (∀ p, split recordCount shards = .error p
    ↔ p = .capacityOverflow ∧ recordCount ≠ 0 ∧ 2 ^ 59 ≤ shardCount recordCount shards)
  ∧ (∀ rs, split recordCount shards = .ok rs → recordCount ≠ 0 →
    (∃ chunk, chunk.toNat = recordCount.toNat ⌈/⌉ shardCount recordCount shards
      ∧ Rounds chunk recordCount 0 rs)
    ∧ Partitions recordCount.toNat (shardCount recordCount shards)
      (recordCount.toNat ⌈/⌉ shardCount recordCount shards) rs)
  ∧ split 0 shards = .ok [⟨0, 0⟩]
  ∧ ∀ rs, split recordCount shards = .ok rs →
    ∀ r ∈ rs, Reader.checkRange recordCount r = .ok ()
  := by
  have hl : Buffer.limit = 2 ^ 59 * byteSize := by decide
  refine ⟨?_, fun rs => partitions_of_split, rfl, fun rs h r => checkRange_of_mem_split h⟩
  intro p
  rw [split_eq_error_iff, hl, Nat.mul_le_mul_right_iff (by decide)]

/-- As many rows as a word counts are split into four shards, the last of which has one row less
than the others. -/
theorem split_partitions_largest :
  ∃ rs, split Word.largest 4 = .ok rs ∧ Partitions (UInt64.size - 1) 4 4611686018427387904 rs
    ∧ rs.getLast? = some ⟨13835058055282163712, 4611686018427387903⟩
  := by
  have hl : Word.largest ≠ 0 := by decide
  obtain ⟨rs, h⟩ : ∃ rs, split Word.largest 4 = .ok rs := by
    apply exists_of_isOk
    decide +kernel
  refine ⟨rs, h, ((split_partitions Word.largest 4).2.1 rs h hl).2, ?_⟩
  have hg : (split Word.largest 4).toOption.bind List.getLast?
      = some ⟨13835058055282163712, 4611686018427387903⟩ := by decide +kernel
  rwa [h] at hg

/-- As many rows as a word counts cannot be split into as many shards. -/
theorem split_into_rows :
  ¬ ∀ recordCount shards, recordCount ≠ 0 → ∃ rs, split recordCount shards = .ok rs
  := by
  intro h
  obtain ⟨rs, hs⟩ := h Word.largest Word.largest (by decide)
  have hp : split Word.largest Word.largest = .error .capacityOverflow :=
    split_eq_error_iff.mpr (by decide +kernel)
  rw [hp] at hs
  cases hs

end RowRange

end BatchFile
