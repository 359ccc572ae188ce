import BatchFile.Footer.Wire
import BatchFile.Proofs.Action

/-!
# Footers in wire form

Decoding what has been encoded gives it back, and leaves what comes behind it
(`Varint.decode_encode`, `FileFooter.decode_encode`, `StoredFooter.decode_encode`).  The number
of rows of a footer whose counts add up to a word is that sum (`FileFooter.toNat_recordCount`).
-/

namespace BatchFile

/-! ### Variable-length numbers -/

namespace Varint

/-- The first number that does not fit `k + 1` bytes of which the last is at most one. -/
def bound : Nat → Nat
  | 0 => 2
  | k + 1 => 128 * bound k

theorem toNat_digit {n : Nat} (h : n < 256) :
  (UInt8.ofNat n).toNat = n
  := UInt8.toNat_ofNat_of_lt' h

theorem decodeNat_encodeNat {k n : Nat} (hn : n < bound k) (rest : Bytes) :
  decodeNat (k + 1) (encodeNat n ++ rest) = .ok (n, rest)
  := by
  induction k generalizing n with
  | zero =>
    have hn : n < 2 := hn
    have hd := toNat_digit (n := n) (by omega)
    rw [encodeNat, if_pos (by omega), List.singleton_append, decodeNat]
    simp only [UInt8.lt_iff_toNat_lt, hd]
    rw [if_pos (by simp; omega), if_neg (by simp; omega)]
  | succ k ih =>
    rw [encodeNat]
    split
    · rename_i h
      have hd := toNat_digit (n := n) (by omega)
      rw [List.singleton_append, decodeNat]
      simp only [UInt8.lt_iff_toNat_lt, hd]
      rw [if_pos (by simpa using h), if_neg (by simp)]
    · rename_i h
      have hd := toNat_digit (n := n % 128 + 128) (by omega)
      have hq : n / 128 < bound k := by
        rw [bound] at hn
        omega
      rw [List.cons_append, decodeNat]
      simp only [UInt8.lt_iff_toNat_lt, hd, ih hq]
      rw [if_neg (by simp)]
      congr 2
      omega

theorem decode_encode (n : UInt64) (rest : Bytes) :
  decode (encode n ++ rest) = .ok (n, rest)
  := by
  have hn : n.toNat < bound 9 := n.toNat_lt
  rw [decode, encode, maxLength, decodeNat_encodeNat hn]
  simp only [UInt64.ofNat_toNat]

theorem encodeNat_ne_nil (n : Nat) :
  encodeNat n ≠ []
  := by
  rw [encodeNat]
  split <;> exact List.cons_ne_nil _ _

theorem length_encode_pos (n : UInt64) :
  0 < (encode n).length
  := List.length_pos_iff.mpr (encodeNat_ne_nil n.toNat)

end Varint

/-! ### Lists of batches -/

theorem BatchSummary.decode_encode (b : BatchSummary) (rest : Bytes) :
  decode (b.encode ++ rest) = .ok (b, rest)
  := by
  rw [decode, encode, List.append_assoc, Varint.decode_encode]
  simp only [bind, Except.bind]
  rw [Varint.decode_encode]
  rfl

theorem BatchSummary.length_encode_pos (b : BatchSummary) :
  0 < b.encode.length
  := by
  rw [encode, List.length_append]
  apply Nat.add_pos_left (Varint.length_encode_pos b.offset) _

namespace FileFooter

theorem decodeSummaries_encode (bs : List BatchSummary) (rest : Bytes) :
  decodeSummaries bs.length (bs.flatMap BatchSummary.encode ++ rest) = .ok (bs, rest)
  := by
  induction bs with
  | nil => rfl
  | cons b bs ih =>
    rw [List.length_cons, decodeSummaries, List.flatMap_cons, List.append_assoc,
      BatchSummary.decode_encode]
    simp only [bind, Except.bind]
    rw [ih]
    rfl

theorem decode_encode {f : FileFooter} (h : f.batches.length < UInt64.size) (rest : Bytes) :
  decode (f.encode ++ rest) = .ok (f, rest)
  := by
  rw [decode, encode, List.append_assoc, Varint.decode_encode]
  simp only [bind, Except.bind]
  rw [UInt64.toNat_ofNat_of_lt' h, decodeSummaries_encode]
  rfl

/-- Every batch takes some bytes of the wire form. -/
theorem length_batches_lt (f : FileFooter) :
  f.batches.length < f.encode.length
  := by
  have hs : f.batches.length ≤ (f.batches.flatMap BatchSummary.encode).length := by
    induction f.batches with
    | nil => apply Nat.le_refl 0
    | cons b bs ih =>
      have hb := b.length_encode_pos
      rw [List.flatMap_cons, List.length_cons, List.length_append]
      omega
  have hn := Varint.length_encode_pos (UInt64.ofNat f.batches.length)
  rw [encode, List.length_append]
  omega

end FileFooter

/-! ### Numbers of rows -/

/-- The number of rows of batches, as an integer. -/
def rowTotal : List BatchSummary → Nat
  | [] => 0
  | b :: bs => b.recordCount.toNat + rowTotal bs

namespace FileFooter

theorem foldl_addCapped_eq {bs : List BatchSummary} {total : UInt64}
    (h : total.toNat + rowTotal bs < UInt64.size) :
  (bs.foldl (fun total b => Word.addCapped total b.recordCount) total).toNat
    = total.toNat + rowTotal bs
  := by
  induction bs generalizing total with
  | nil => rfl
  | cons b bs ih =>
    rw [rowTotal] at h ⊢
    have hb : (Word.addCapped total b.recordCount).toNat
        = total.toNat + b.recordCount.toNat := by
      rw [Word.toNat_addCapped]
      omega
    rw [List.foldl_cons, ih (by omega), hb]
    omega

/-- Counts that add up to a word add up to the number of rows. -/
theorem toNat_recordCount {f : FileFooter} (h : rowTotal f.batches < UInt64.size) :
  f.recordCount.toNat = rowTotal f.batches
  := by
  have hz : (0 : UInt64).toNat + rowTotal f.batches < UInt64.size := by simpa using h
  rw [recordCount, foldl_addCapped_eq hz, UInt64.toNat_zero, Nat.zero_add]

theorem foldlM_add?_eq {bs : List BatchSummary} {total : UInt64}
    (h : total.toNat + rowTotal bs < UInt64.size) :
  bs.foldlM (fun total b => Word.add? total b.recordCount) total
    = some (bs.foldl (fun total b => Word.addCapped total b.recordCount) total)
  := by
  induction bs generalizing total with
  | nil => rfl
  | cons b bs ih =>
    rw [rowTotal] at h
    have hb : (Word.addCapped total b.recordCount).toNat
        = total.toNat + b.recordCount.toNat := by
      rw [Word.toNat_addCapped]
      omega
    have ha : Word.add? total b.recordCount = some (Word.addCapped total b.recordCount) :=
      Word.add?_eq_some_iff.mpr hb.symm
    rw [List.foldlM_cons, ha, List.foldl_cons]
    apply ih (by omega)

/-- The number of rows is known exactly if the counts add up to a word. -/
theorem tryRecordCount_eq {f : FileFooter} (h : rowTotal f.batches < UInt64.size) :
  f.tryRecordCount = some f.recordCount
  := by
  apply foldlM_add?_eq
  simpa using h

theorem foldlM_add?_eq_some_iff {bs : List BatchSummary} {total n : UInt64} :
  bs.foldlM (fun total b => Word.add? total b.recordCount) total = some n
    ↔ n.toNat = total.toNat + rowTotal bs
  := by
  induction bs generalizing total with
  | nil =>
    rw [rowTotal, Nat.add_zero, UInt64.toNat_inj]
    exact Option.some_inj.trans eq_comm
  | cons b bs ih =>
    rw [List.foldlM_cons, Option.bind_eq_bind, Option.bind_eq_some_iff, rowTotal]
    simp only [Word.add?_eq_some_iff, ih]
    constructor
    · rintro ⟨m, h1, h2⟩
      omega
    · intro h
      have hn : n.toNat < UInt64.size := n.toNat_lt
      have hm : (UInt64.ofNat (total.toNat + b.recordCount.toNat)).toNat
          = total.toNat + b.recordCount.toNat := UInt64.toNat_ofNat_of_lt' (by omega)
      use UInt64.ofNat (total.toNat + b.recordCount.toNat), hm.symm
      omega

/-- A footer has a number of rows exactly if that is what its counts add up to. -/
theorem tryRecordCount_eq_some_iff {f : FileFooter} {n : UInt64} :
  f.tryRecordCount = some n ↔ n.toNat = rowTotal f.batches
  := by rw [tryRecordCount, foldlM_add?_eq_some_iff, UInt64.toNat_zero, Nat.zero_add]

end FileFooter

/-! ### Stored footers -/

namespace StoredFooter

theorem decode_encode {s : StoredFooter} (hs : s.schema.length < UInt64.size)
    (hf : s.footer.batches.length < UInt64.size) (rest : Bytes) :
  decode (s.encode ++ rest) = .ok (s, rest)
  := by
  rw [decode, encode, List.append_assoc, List.append_assoc, Varint.decode_encode]
  simp only [bind, Except.bind]
  rw [UInt64.toNat_ofNat_of_lt' hs, if_neg (by rw [List.length_append]; omega), List.drop_left,
    List.take_left]
  simp only [pure, Except.pure]
  rw [FileFooter.decode_encode hf]

theorem length_schema_lt (s : StoredFooter) :
  s.schema.length < s.encode.length
  := by
  have hn := Varint.length_encode_pos (UInt64.ofNat s.schema.length)
  rw [encode, List.length_append, List.length_append]
  omega

theorem length_footer_lt (s : StoredFooter) :
  s.footer.encode.length < s.encode.length
  := by
  have hn := Varint.length_encode_pos (UInt64.ofNat s.schema.length)
  rw [encode, List.length_append, List.length_append]
  omega

end StoredFooter

end BatchFile
