import BatchFile.Proofs.Reader.Decode

/-!
# How far a batch is read

A decoding of a byte string takes up as many bytes as it asks for on the way to its end
(`Ipc.Decoding.extent`).  What it comes to depends on them only, and there is no value unless the
byte string holds all of them.  `batchEnd` is where the bytes end that the batch at an offset is
decoded from, and nothing behind it is looked at: contents with the same bytes from the offset up
to there give the same outcome (`batchIn_congr`).  A batch that is found lies in the contents as a
whole (`batchEnd_le_of_batchIn`), so that it is not found any more if the contents end before its
bytes do (`batchIn_take_of_lt`).
-/

namespace BatchFile

namespace Ipc

open BatchFile.Action

/-! ### Byte strings with the same beginning -/

section Congr

variable {α β : Type} {b b' : Bytes} {k : Nat}

/-- Byte strings with the same beginning have the same pieces in it. -/
theorem piece_congr (h : b'.take k = b.take k) {i n : Nat} (hk : i + n ≤ k) :
  (b'.drop i).take n = (b.drop i).take n
  := by
  have h := congrArg (fun x => (x.drop i).take n) h
  simp only [List.drop_take, List.take_take] at h
  rwa [Nat.min_eq_left (by omega)] at h

theorem take_congr (h : b'.take k = b.take k) {n : Nat} (hk : n ≤ k) :
  b'.take n = b.take n
  := by
  have hp : (b'.drop 0).take n = (b.drop 0).take n := piece_congr h (by omega)
  rwa [List.drop_zero, List.drop_zero] at hp

theorem ofBytes_of_le {n : Nat} (h : n ≤ b.length) :
  Source.ofBytes n b = (.ok (b.take n), b.drop n)
  := by
  rw [Source.ofBytes]
  rw [if_pos h]

theorem ofBytes_eq_ok {n : Nat} {bytes : Bytes} (h : Source.ofBytes n b = (.ok bytes, b')) :
  n ≤ b.length ∧ bytes = b.take n ∧ b' = b.drop n
  := by
  rw [Source.ofBytes] at h
  split at h
  · rename_i hn
    cases h
    exact ⟨hn, rfl, rfl⟩
  · cases h

/-! ### Extents of decodings -/

namespace Decoding

/-- The number of bytes that a decoding of a byte string asks for. -/
def extent : Decoding α → Bytes → Nat
  | done _, _ => 0
  | get n _ next, b => n + (next (b.take n)).extent (b.drop n)

/-- What a decoding comes to if a byte string holds all bytes that it asks for. -/
def outcomeIn : Decoding α → Bytes → Except Failure (Option α)
  | done r, _ => r
  | get n _ next, b => (next (b.take n)).outcomeIn (b.drop n)

/-- Nothing but the bytes that are asked for decides about a decoding. -/
theorem congr (d : Decoding α) (h : b'.take k = b.take k) (hk : d.extent b ≤ k) :
  d.extent b' = d.extent b ∧ d.outcomeIn b' = d.outcomeIn b
  := by
  induction d generalizing b b' k with
  | done r => exact ⟨rfl, rfl⟩
  | get n mayEnd next ih =>
    rw [extent] at hk
    have ht : b'.take n = b.take n := take_congr h (by omega)
    have hd : (b'.drop n).take (k - n) = (b.drop n).take (k - n) := piece_congr h (by omega)
    obtain ⟨h1, h2⟩ := ih (b.take n) hd (by omega)
    rw [extent, extent, outcomeIn, outcomeIn, ht, h1, h2]
    exact ⟨rfl, rfl⟩

/-- A decoding of a byte string that holds all bytes that are asked for goes on behind them. -/
theorem run_ofBytes (d : Decoding α) (h : d.extent b ≤ b.length) :
  d.run Source.ofBytes b = (d.outcomeIn b, b.drop (d.extent b))
  := by
  induction d generalizing b with
  | done r => rfl
  | get n mayEnd next ih =>
    rw [extent] at h
    rw [run_get_of_ok (ofBytes_of_le (by omega)), ih _ (by rw [List.length_drop]; omega), extent,
      outcomeIn, List.drop_drop]

theorem run_congr (d : Decoding α) (h : b'.take k = b.take k) (hk : d.extent b ≤ k)
    (hb : k ≤ b.length) (hb' : k ≤ b'.length) :
  (d.run Source.ofBytes b').1 = (d.run Source.ofBytes b).1
  := by
  obtain ⟨he, ho⟩ := d.congr h hk
  rw [d.run_ofBytes (Nat.le_trans hk hb), d.run_ofBytes (by omega), ho]

/-- A byte string in which a value is found holds all bytes that are asked for. -/
theorem extent_le_of_run {d : Decoding α} {x : α}
    (h : d.run Source.ofBytes b = (.ok (some x), b')) :
  d.extent b ≤ b.length
  := by
  induction d generalizing b with
  | done r => exact Nat.zero_le _
  | get n mayEnd next ih =>
    obtain ⟨_, _, h1, h2⟩ := run_get_eq_some_iff.mp h
    obtain ⟨hn, rfl, rfl⟩ := ofBytes_eq_ok h1
    have hi := ih _ h2
    rw [List.length_drop] at hi
    rw [extent]
    omega

theorem outcomeIn_of_run {d : Decoding α} {x : α}
    (h : d.run Source.ofBytes b = (.ok (some x), b')) :
  d.outcomeIn b = .ok (some x) ∧ b' = b.drop (d.extent b)
  := by
  have hr := d.run_ofBytes (extent_le_of_run h)
  rw [h, Prod.mk.injEq] at hr
  exact ⟨hr.1.symm, hr.2⟩

/-- The bytes of the second decoding lie behind those of the first one, if there is a second
one. -/
theorem extent_andThen (d : Decoding α) (f : α → Decoding β) (b : Bytes) :
  (d.andThen f).extent b
    = d.extent b
      + match d.outcomeIn b with
        | .ok (some x) => (f x).extent (b.drop (d.extent b))
        | _ => 0
  := by
  induction d generalizing b with
  | done r =>
    obtain _ | _ | x := r
    · rfl
    · rfl
    · simp [andThen, extent, outcomeIn]
  | get n mayEnd next ih =>
    simp only [andThen, extent, outcomeIn, ih, List.drop_drop, Nat.add_assoc]

theorem extent_andThen_of_some {d : Decoding α} {f : α → Decoding β} {x : α}
    (h : d.outcomeIn b = .ok (some x)) :
  (d.andThen f).extent b = d.extent b + (f x).extent (b.drop (d.extent b))
  := by rw [extent_andThen, h]

/-- One decoding after another finds what the second one finds behind the first one. -/
theorem outcomeIn_andThen_eq_some_iff {d : Decoding α} {f : α → Decoding β} {y : β} :
  (d.andThen f).outcomeIn b = .ok (some y)
    ↔ ∃ x, d.outcomeIn b = .ok (some x)
      ∧ (f x).outcomeIn (b.drop (d.extent b)) = .ok (some y)
  := by
  induction d generalizing b with
  | done r => obtain _ | _ | x := r <;> simp [andThen, extent, outcomeIn, fail, ended]
  | get n mayEnd next ih => simp only [andThen, extent, outcomeIn, ih, List.drop_drop]

theorem extent_le_andThen (d : Decoding α) (f : α → Decoding β) (b : Bytes) :
  d.extent b ≤ (d.andThen f).extent b
  := by
  rw [extent_andThen]
  apply Nat.le_add_right

end Decoding

end Congr

/-! ### Batches in byte strings -/

section Batch

variable [Decoder] {b b' : Bytes}

/-- The decoding of a schema and of the record batch after it. -/
def batchDecoding : Decoding RecordBatch := Decoder.schema.andThen Decoder.batch

/-- The number of bytes that the first batch of a byte string is decoded from. -/
def batchSize (b : Bytes) : Nat := batchDecoding.extent b

theorem batchSize_congr {k : Nat} (h : b'.take k = b.take k) (hk : batchSize b ≤ k) :
  batchSize b' = batchSize b
  := (batchDecoding.congr h hk).1

/-- A schema that is read takes up the bytes that its decoding asks for. -/
theorem readSchema_ofBytes {schema : Schema} (h : (readSchema Source.ofBytes b).1 = .ok schema) :
  Decoder.schema.outcomeIn b = .ok (some schema)
    ∧ (readSchema Source.ofBytes b).2 = b.drop (Decoder.schema.extent b)
  := Decoding.outcomeIn_of_run (readSchema_eq_ok_iff.mp (Prod.ext h rfl))

/-- Byte strings with the same first bytes hold the same first batch, or have none for the same
reason. -/
theorem firstBatch_congr {k : Nat} (h : b'.take k = b.take k) (hk : batchSize b ≤ k)
    (hb : k ≤ b.length) (hb' : k ≤ b'.length) (offset : UInt64) :
  (firstBatch Source.ofBytes offset b').1 = (firstBatch Source.ofBytes offset b).1
  := by
  have hs : Decoder.schema.extent b ≤ k := Nat.le_trans (Decoding.extent_le_andThen _ _ b) hk
  have hr : (readSchema Source.ofBytes b').1 = (readSchema Source.ofBytes b).1 := by
    apply bind_congr_fst (Decoding.run_congr _ h hs hb hb')
    rintro (_ | _) _ <;> rfl
  apply bind_congr_fst
  · rw [mapError_fst, mapError_fst, hr]
  intro schema hx
  -- Behind the schema both go on with the batch.
  have hx : (readSchema Source.ofBytes b).1 = .ok schema :=
    congrArg Prod.fst (mapError_eq_ok_iff.mp (Prod.ext hx rfl))
  obtain ⟨ho, hd⟩ := readSchema_ofBytes hx
  have hd' := (readSchema_ofBytes (hr.trans hx)).2
  rw [(Decoding.congr _ h hs).1] at hd'
  rw [batchSize, batchDecoding, Decoding.extent_andThen_of_some ho] at hk
  apply bind_congr_fst
  · rw [mapError_fst, mapError_fst, mapError_snd, mapError_snd, hd, hd', readBatch]
    congr 1
    apply Decoding.run_congr _ (piece_congr h (Nat.le_of_eq (Nat.add_sub_of_le hs)))
    · omega
    · rw [List.length_drop]
      omega
    · rw [List.length_drop]
      omega
  · rintro (_ | batch) _ <;> rfl

/-- A batch that a byte string gives lies in it with all bytes that its decoding asks for, and what
is left comes behind them. -/
theorem firstBatch_ofBytes_eq_ok {offset : UInt64} {batch : RecordBatch}
    (h : firstBatch Source.ofBytes offset b = (.ok batch, b')) :
  batchSize b ≤ b.length ∧ b' = b.drop (batchSize b)
  := by
  obtain ⟨schema, a, h1, h2⟩ := firstBatch_eq_ok_iff.mp h
  have h1 := readSchema_eq_ok_iff.mp h1
  have hl := Decoding.extent_le_of_run h1
  obtain ⟨ho, rfl⟩ := Decoding.outcomeIn_of_run h1
  have hl' := Decoding.extent_le_of_run h2
  rw [List.length_drop] at hl'
  rw [batchSize, batchDecoding, Decoding.extent_andThen_of_some ho,
    (Decoding.outcomeIn_of_run h2).2, List.drop_drop]
  constructor
  · omega
  · rfl

end Batch

end Ipc

/-! ### The end of a batch in contents -/

variable [Ipc.Decoder]

/-- Where the bytes end that the batch at an offset is decoded from. -/
def batchEnd (c : Bytes) (offset : UInt64) : Nat :=
  offset.toNat + Ipc.batchSize (c.drop offset.toNat)

section Contents

variable {c c' : Bytes} {offset : UInt64}

/-- The end of a batch that is found is where its reading leaves off. -/
theorem batchIn_eq_ok_iff_batchEnd {batch : RecordBatch} :
  batchIn c offset = .ok batch
    ↔ Ipc.firstBatch Ipc.Source.ofBytes offset (c.drop offset.toNat)
      = (.ok batch, c.drop (batchEnd c offset))
  := by
  rw [batchIn_eq_ok_iff]
  constructor
  · rintro ⟨b, hb⟩
    rw [hb, (Ipc.firstBatch_ofBytes_eq_ok hb).2, List.drop_drop, batchEnd]
  · intro h
    use c.drop (batchEnd c offset), h

/-- A batch that is found lies in the contents as a whole. -/
theorem batchEnd_le_of_batchIn {batch : RecordBatch} (h : batchIn c offset = .ok batch) :
  batchEnd c offset ≤ c.length
  := by
  obtain ⟨b, hb⟩ := batchIn_eq_ok_iff.mp h
  have hs := (Ipc.firstBatch_ofBytes_eq_ok hb).1
  have ho := offset_lt_of_batchIn h
  rw [List.length_drop] at hs
  rw [batchEnd]
  omega

/-- The contents have the same bytes as others where the batch at an offset is decoded from. -/
def SameExtent (b b' : Bytes) (offset : UInt64) : Prop :=
  ∀ i, offset.toNat ≤ i → i < batchEnd b offset → b'[i]? = b[i]?

theorem sameExtent_iff_take_eq :
  SameExtent c c' offset
    ↔ (c'.drop offset.toNat).take (Ipc.batchSize (c.drop offset.toNat))
      = (c.drop offset.toNat).take (Ipc.batchSize (c.drop offset.toNat))
  := by
  constructor
  · intro h
    apply List.ext_getElem?
    intro i
    rw [List.getElem?_take, List.getElem?_take]
    split
    · rename_i hi
      rw [List.getElem?_drop, List.getElem?_drop]
      apply h
      · omega
      · rw [batchEnd]
        omega
    · rfl
  · intro h i ho hi
    rw [batchEnd] at hi
    have h := congrArg (fun b => b[i - offset.toNat]?) h
    rwa [List.getElem?_take_of_lt (by omega), List.getElem?_take_of_lt (by omega),
      List.getElem?_drop, List.getElem?_drop, Nat.add_sub_cancel' ho] at h

instance (c c' : Bytes) (offset : UInt64) : Decidable (SameExtent c c' offset) :=
  decidable_of_iff _ sameExtent_iff_take_eq.symm

theorem SameExtent.batchEnd_eq (h : SameExtent c c' offset) :
  batchEnd c' offset = batchEnd c offset
  := by
  have h := sameExtent_iff_take_eq.mp h
  rw [batchEnd, batchEnd, Ipc.batchSize_congr h (Nat.le_refl _)]

/-- Nothing but the bytes that a batch is decoded from decides about it. -/
theorem batchIn_congr (h : SameExtent c c' offset) (hc : batchEnd c offset ≤ c.length) :
  batchIn c' offset = batchIn c offset
  := by
  have hs := sameExtent_iff_take_eq.mp h
  have hl := congrArg List.length hs
  rw [List.length_take, List.length_take, List.length_drop, List.length_drop] at hl
  rw [batchEnd] at hc
  apply Ipc.firstBatch_congr hs (Nat.le_refl _)
  · rw [List.length_drop]
    omega
  · rw [List.length_drop]
    omega

/-! ### Contents that are cut off -/

variable {p : Nat}

theorem sameExtent_take (h : batchEnd c offset ≤ p) :
  SameExtent c (c.take p) offset
  := fun _ _ hi => List.getElem?_take_of_lt (Nat.lt_of_lt_of_le hi h)

/-- Cutting the contents off behind the bytes of a batch makes no difference to it. -/
theorem batchIn_take_of_le (h : batchEnd c offset ≤ p) (hp : p ≤ c.length) :
  batchIn (c.take p) offset = batchIn c offset
  := batchIn_congr (sameExtent_take h) (Nat.le_trans h hp)

/-- A batch is not found any more if the contents are cut off before its bytes end. -/
theorem batchIn_take_of_lt (h : p < batchEnd c offset) (batch : RecordBatch) :
  batchIn (c.take p) offset ≠ .ok batch
  := by
  intro hb
  have hl := batchEnd_le_of_batchIn hb
  rw [List.length_take] at hl
  have hs : SameExtent (c.take p) c offset := by
    intro _ _ hi
    rw [List.getElem?_take_of_lt]
    omega
  rw [hs.batchEnd_eq] at h
  omega

end Contents

end BatchFile
