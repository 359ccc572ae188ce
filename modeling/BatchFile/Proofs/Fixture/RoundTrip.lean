import BatchFile.Proofs.Fixture.Builder
import BatchFile.Proofs.Reader.Correct

/-!
# Built files are read back

A builder whose schema and batches can be decoded from their streams builds a file that is
laid out as it should be, whose metadata can be loaded, and whose rows are the rows of the
batches.
-/

namespace BatchFile

namespace FileBuilder

variable {builder : FileBuilder}

/-- The streams of the first `n` batches, end to end. -/
def streams (builder : FileBuilder) (n : Nat) : Bytes :=
  (builder.batches.take n).flatMap (Ipc.encodeBatchStream builder.schema)

/-- The rows of all batches, one after another. -/
def rows (builder : FileBuilder) : List Row :=
  builder.batches.flatMap RecordBatch.rows

/-- The position of the footer: behind the magic word and the batches. -/
def footerStart (builder : FileBuilder) : Nat :=
  Layout.magic.length + (builder.streams builder.batches.length).length

/-- The parts of a built file are where they should be: the magic word, the batches from its
end on, the footer, the footer offset, and the magic word again.  The footer lists for each
batch where it starts and how many rows it has; the batches start one behind another, the
first one behind the magic word and all of them before the footer. -/
structure LaidOut (builder : FileBuilder) : Prop where
  bytes_eq : builder.toBytes.1
    = Layout.magic ++ builder.streams builder.batches.length
      ++ footerBytes builder.schema builder.toBytes.2
      ++ Bytes.ofWord (UInt64.ofNat builder.footerStart) ++ Layout.magic
  footerStart_lt : builder.footerStart < UInt64.size
  length_eq : builder.toBytes.2.batches.length = builder.batches.length
  summary : ∀ (i : Nat) (b : RecordBatch), builder.batches[i]? = some b →
    ∃ s, builder.toBytes.2.batches[i]? = some s
      ∧ s.offset.toNat = Layout.magic.length + (builder.streams i).length
      ∧ s.recordCount.toNat = b.rowCount
  head : ∀ s, builder.toBytes.2.batches.head? = some s → s.offset = Layout.magicLength
  increasing : builder.toBytes.2.batches.Pairwise fun s s' => s.offset < s'.offset
  before_footer : ∀ s ∈ builder.toBytes.2.batches, s.offset.toNat < builder.footerStart

/-! ### The layout -/

theorem streams_length (builder : FileBuilder) :
  builder.streams builder.batches.length
    = builder.batches.flatMap (Ipc.encodeBatchStream builder.schema)
  := by
  rw [streams, List.take_length]

theorem toBytes_fst (builder : FileBuilder) :
  builder.toBytes.1
    = appendFooter (Layout.magic ++ builder.streams builder.batches.length) builder.schema
      builder.toBytes.2
  := by
  rw [streams_length, ← layOut_fst builder.schema Layout.magic.length]
  rfl

theorem footerStart_eq (builder : FileBuilder) :
  builder.footerStart
    = (Layout.magic ++ builder.streams builder.batches.length).length
  := by
  rw [footerStart, List.length_append]

theorem length_streams_succ {i : Nat} {b : RecordBatch} (hb : builder.batches[i]? = some b) :
  (builder.streams (i + 1)).length
    = (builder.streams i).length + (Ipc.encodeBatchStream builder.schema b).length
  := by
  rw [streams, List.take_add_one, hb, Option.toList_some, List.flatMap_append, List.length_append,
    List.flatMap_singleton]
  rfl

/-- More batches have longer streams. -/
theorem length_streams_le (builder : FileBuilder) {i j : Nat} (h : i ≤ j) :
  (builder.streams i).length ≤ (builder.streams j).length
  := by
  obtain ⟨k, rfl⟩ := Nat.exists_eq_add_of_le h
  rw [streams, streams, List.take_add, List.flatMap_append, List.length_append]
  apply Nat.le_add_right _ _

theorem rowCount_le {b : RecordBatch} (hb : b ∈ builder.batches) :
  b.rowCount ≤ builder.rows.length
  := by
  rw [← b.length_rows]
  rw [rows, List.flatMap_def]
  apply List.Sublist.length_le
  apply List.sublist_flatten_of_mem (List.mem_map_of_mem hb)

/-- The footer has the place and the size of every batch. -/
theorem exists_summary (hn : builder.rows.length < UInt64.size)
    (hl : builder.footerStart < UInt64.size) {i : Nat} {b : RecordBatch}
    (hb : builder.batches[i]? = some b) :
  ∃ s, builder.toBytes.2.batches[i]? = some s
    ∧ s.offset.toNat = Layout.magic.length + (builder.streams i).length
    ∧ s.recordCount.toNat = b.rowCount
  := by
  refine ⟨_, getElem?_layOut hb Layout.magic.length, ?_, ?_⟩
  · apply UInt64.toNat_ofNat_of_lt'
    have hi : i < builder.batches.length := (List.getElem?_eq_some_iff.mp hb).1
    have hs := length_streams_le builder (Nat.le_of_lt hi)
    rw [← streams]
    rw [footerStart] at hl
    omega
  · apply UInt64.toNat_ofNat_of_lt'
    have hc := rowCount_le (List.mem_of_getElem? hb)
    omega

theorem footerStart_lt (hl : builder.toBytes.1.length < UInt64.size) :
  builder.footerStart < UInt64.size
  := by
  have hlen := length_appendFooter (Layout.magic ++ builder.streams builder.batches.length)
    builder.schema builder.toBytes.2
  rw [← toBytes_fst, ← footerStart_eq] at hlen
  omega

/-- The places of two batches that follow each other. -/
theorem offset_of_getElem (hn : builder.rows.length < UInt64.size)
    (hl : builder.footerStart < UInt64.size) {i : Nat}
    (hi : i < builder.toBytes.2.batches.length) :
  i < builder.batches.length
    ∧ (builder.toBytes.2.batches[i]).offset.toNat
      = Layout.magic.length + (builder.streams i).length
  := by
  have hb : i < builder.batches.length := by
    rwa [← length_layOut_snd builder.schema Layout.magic.length builder.batches]
  obtain ⟨s, hs, ho, -⟩ := exists_summary hn hl (List.getElem?_eq_getElem hb)
  obtain ⟨_, rfl⟩ := List.getElem?_eq_some_iff.mp hs
  exact ⟨hb, ho⟩

/-- The metadata of a built file at a path. -/
def metadata (builder : FileBuilder) (path : Path) : FileMetadata :=
  .ofFooter path builder.toBytes.2 (some builder.schema)

section Restored

variable [Ipc.Decoder]

/-- The schema and the batches are decoded from the streams that they are encoded as. -/
structure Restored (builder : FileBuilder) : Prop where
  schema : Ipc.schemaOf (Ipc.encodeSchemaStream builder.schema) = .ok builder.schema
  batch : ∀ b ∈ builder.batches,
    batchIn (Ipc.encodeBatchStream builder.schema b) 0 = .ok b

instance (builder : FileBuilder) : Decidable builder.Restored :=
  decidable_of_iff
    (Ipc.schemaOf (Ipc.encodeSchemaStream builder.schema) = .ok builder.schema
      ∧ ∀ b ∈ builder.batches, batchIn (Ipc.encodeBatchStream builder.schema b) 0 = .ok b)
    ⟨fun h => ⟨h.1, h.2⟩, fun h => ⟨h.1, h.2⟩⟩

theorem length_stream_pos (hr : builder.Restored) {b : RecordBatch} (hb : b ∈ builder.batches) :
  0 < (Ipc.encodeBatchStream builder.schema b).length
  := offset_lt_of_batchIn (hr.batch b hb)

theorem length_streams_lt (hr : builder.Restored) {i j : Nat} (hi : i < builder.batches.length)
    (h : i < j) :
  (builder.streams i).length < (builder.streams j).length
  := by
  have hp := length_stream_pos hr (List.getElem_mem hi)
  have hs := length_streams_succ (List.getElem?_eq_getElem hi)
  have hl : (builder.streams (i + 1)).length ≤ (builder.streams j).length :=
    length_streams_le builder h
  omega

/-- Every part of a built file is where it should be. -/
theorem laidOut (hr : builder.Restored) (hn : builder.rows.length < UInt64.size)
    (hl : builder.toBytes.1.length < UInt64.size) :
  builder.LaidOut
  where
  bytes_eq := by
    rw [footerStart_eq]
    apply toBytes_fst builder
  footerStart_lt := footerStart_lt hl
  length_eq := length_layOut_snd builder.schema Layout.magic.length builder.batches
  summary i b hb := exists_summary hn (footerStart_lt hl) hb
  head := by
    intro s hs
    rw [List.head?_eq_getElem?] at hs
    obtain ⟨h0, rfl⟩ := List.getElem?_eq_some_iff.mp hs
    obtain ⟨-, ho⟩ := offset_of_getElem hn (footerStart_lt hl) h0
    apply UInt64.toNat_inj.mp
    rw [ho]
    rfl
  increasing := by
    apply List.pairwise_iff_getElem.mpr
    intro i j hi hj h
    obtain ⟨hi', ho⟩ := offset_of_getElem hn (footerStart_lt hl) hi
    obtain ⟨-, ho'⟩ := offset_of_getElem hn (footerStart_lt hl) hj
    have hs := length_streams_lt hr hi' h
    rw [UInt64.lt_iff_toNat_lt, ho, ho']
    omega
  before_footer := by
    intro s hs
    obtain ⟨i, hi, rfl⟩ := List.mem_iff_getElem.mp hs
    obtain ⟨hi', ho⟩ := offset_of_getElem hn (footerStart_lt hl) hi
    have hs := length_streams_lt hr hi' hi'
    rw [ho, footerStart]
    omega

/-! ### The metadata -/

/-- The summaries in the footer stand for the batches. -/
theorem standsFor_toBytes (hr : builder.Restored) (hn : builder.rows.length < UInt64.size)
    (hl : builder.toBytes.1.length < UInt64.size) :
  List.Forall₂ (BatchSummary.StandsFor builder.toBytes.1) builder.toBytes.2.batches
    builder.batches
  := by
  have ha : builder.toBytes.1
      = Layout.magic ++ (layOut builder.schema Layout.magic.length builder.batches).1
        ++ (footerBytes builder.schema builder.toBytes.2
          ++ (Bytes.ofWord (UInt64.ofNat builder.footerStart) ++ Layout.magic)) := by
    rw [toBytes_fst, footerStart_eq, layOut_fst, ← streams_length, appendFooter, footerBytes]
    simp only [List.append_assoc]
  rw [ha] at hl ⊢
  apply forall₂_layOut hr.batch _ hl
  intro b hb
  apply Nat.lt_of_le_of_lt (rowCount_le hb) hn

section Metadata

variable (hr : builder.Restored) (hn : builder.rows.length < UInt64.size)
  (hl : builder.toBytes.1.length < UInt64.size) (path : Path)

include hr hn hl

theorem toNat_recordCount_metadata :
  (builder.metadata path).recordCount.toNat = builder.rows.length
  := by
  have ht := rowTotal_of_standsFor (standsFor_toBytes hr hn hl)
  rw [← rows] at ht
  rw [← ht] at hn ⊢
  apply FileFooter.toNat_recordCount hn

/-- The metadata of a built file are consistent with it, and its rows are those of the
batches. -/
theorem consistent_metadata :
  (builder.metadata path).Consistent builder.toBytes.1
    ∧ (builder.metadata path).allRows builder.toBytes.1 = builder.rows
  := FileMetadata.consistent_of_standsFor (standsFor_toBytes hr hn hl)
      (toNat_recordCount_metadata hr hn hl path)

end Metadata

/-! ### Reading back -/

end Restored

end FileBuilder

end BatchFile
