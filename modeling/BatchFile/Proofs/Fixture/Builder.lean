import BatchFile.Fixture.Builder
import BatchFile.Proofs.FileMetadata
import BatchFile.Proofs.Reader.Rows

/-!
# The layout of built files

What a builder puts behind the batches leads a reader to the footer
(`FileBuilder.valid_appendFooter`, `FileBuilder.footerIn_appendFooter`).  The streams of the
batches lie end to end, and the footer says where (`FileBuilder.getElem?_layOut`); so each
batch is decoded at the offset that the footer has for it (`FileBuilder.forall₂_layOut`).
-/

namespace BatchFile

namespace FileBuilder

/-! ### Footer and trailer -/

section Footer

variable {front : Bytes} {schema : Schema} {footer : FileFooter}

/-- The wire form of the footer of a file. -/
def footerBytes (schema : Schema) (footer : FileFooter) : Bytes :=
  StoredFooter.encode ⟨Ipc.encodeSchemaStream schema, footer⟩

theorem length_footerBytes_pos (schema : Schema) (footer : FileFooter) :
  0 < (footerBytes schema footer).length
  := Nat.lt_of_le_of_lt (Nat.zero_le _) (StoredFooter.length_footer_lt _)

theorem length_appendFooter (front : Bytes) (schema : Schema) (footer : FileFooter) :
  (appendFooter front schema footer).length
    = front.length + (footerBytes schema footer).length + Layout.trailerSize.toNat
  := by
  have ht : Layout.trailerSize.toNat = 18 := rfl
  have hw : Layout.footerOffsetSize.toNat = 8 := rfl
  have hm : Layout.magic.length = 10 := Layout.length_magic
  rw [appendFooter, List.length_append, List.length_append, List.length_append,
    Framing.length_ofWord, ← footerBytes]
  omega

theorem magicIn_appendFooter :
  Framing.magicIn (appendFooter front schema footer) = Layout.magic
  := Framing.magicIn_append _

theorem footerOffsetIn_appendFooter :
  Framing.footerOffsetIn (appendFooter front schema footer) = UInt64.ofNat front.length
  := Framing.footerOffsetIn_append _ _

variable (hl : (appendFooter front schema footer).length < UInt64.size)

include hl

theorem toNat_footerOffsetIn_appendFooter :
  (Framing.footerOffsetIn (appendFooter front schema footer)).toNat = front.length
  := by
  rw [footerOffsetIn_appendFooter]
  apply UInt64.toNat_ofNat_of_lt'
  rw [length_appendFooter] at hl
  omega

theorem footerBytesIn_appendFooter :
  Framing.footerBytesIn (appendFooter front schema footer) = footerBytes schema footer
  := by
  have hlen := length_appendFooter front schema footer
  rw [Framing.footerBytesIn, toNat_footerOffsetIn_appendFooter hl, hlen, appendFooter,
    ← footerBytes, List.append_assoc, List.append_assoc, List.drop_left, List.take_left']
  omega

/-- The trailer of a file leads to its footer. -/
theorem valid_appendFooter (hf : Layout.magicLength.toNat ≤ front.length) :
  Framing.Valid (appendFooter front schema footer)
  := by
  have h1 : Layout.minFileSize.toNat = 28 := rfl
  have h2 : Layout.trailerSize.toNat = 18 := rfl
  have h3 : Layout.magicLength.toNat = 10 := rfl
  have hp := length_footerBytes_pos schema footer
  have ho := toNat_footerOffsetIn_appendFooter hl
  have hlen := length_appendFooter front schema footer
  refine ⟨by omega, magicIn_appendFooter, by omega, by omega⟩

/-- The footer of a file is read as it was written, with the schema that is decoded from the
stream in it. -/
theorem footerIn_appendFooter [Ipc.Decoder] {decoded : Schema}
    (hf : Layout.magicLength.toNat ≤ front.length)
    (hs : Ipc.schemaOf (Ipc.encodeSchemaStream schema) = .ok decoded) :
  Framing.footerIn (appendFooter front schema footer) = .ok (decoded, footer)
  := by
  have hlen := length_appendFooter front schema footer
  have h1 := StoredFooter.length_schema_lt ⟨Ipc.encodeSchemaStream schema, footer⟩
  have h2 := StoredFooter.length_footer_lt ⟨Ipc.encodeSchemaStream schema, footer⟩
  have h3 := footer.length_batches_lt
  rw [footerBytes] at hlen
  have hd := StoredFooter.decode_encode (s := ⟨Ipc.encodeSchemaStream schema, footer⟩)
    (by omega) (by simp only at h2 ⊢; omega) []
  rw [List.append_nil] at hd
  rw [Framing.footerIn_of_valid (valid_appendFooter hl hf), footerBytesIn_appendFooter hl,
    decodeFooter, footerBytes, hd]
  simp only [hs]

end Footer

/-! ### Batches -/

theorem layOut_fst (schema : Schema) (offset : Nat) (bs : List RecordBatch) :
  (layOut schema offset bs).1 = bs.flatMap (Ipc.encodeBatchStream schema)
  := by
  induction bs generalizing offset with
  | nil => rfl
  | cons b bs ih => rw [layOut, List.flatMap_cons, ← ih]

theorem length_layOut_snd (schema : Schema) (offset : Nat) (bs : List RecordBatch) :
  (layOut schema offset bs).2.length = bs.length
  := by
  induction bs generalizing offset with
  | nil => rfl
  | cons b bs ih => rw [layOut, List.length_cons, List.length_cons, ih]

/-- A batch starts where the batches before it end. -/
theorem getElem?_layOut {schema : Schema} {bs : List RecordBatch} {i : Nat} {b : RecordBatch}
    (hb : bs[i]? = some b) (offset : Nat) :
  (layOut schema offset bs).2[i]?
    = some ⟨UInt64.ofNat
          (offset + ((bs.take i).flatMap (Ipc.encodeBatchStream schema)).length),
        UInt64.ofNat b.rowCount⟩
  := by
  induction bs generalizing offset i with
  | nil => cases hb
  | cons a bs ih =>
    rw [layOut]
    cases i with
    | zero =>
      cases hb
      rfl
    | succ i =>
      rw [List.getElem?_cons_succ] at hb ⊢
      rw [ih hb, List.take_succ_cons, List.flatMap_cons, List.length_append, Nat.add_assoc]

/-- Batches that are decoded from their streams are decoded at their offsets. -/
theorem forall₂_layOut [Ipc.Decoder] {schema : Schema} {bs : List RecordBatch}
    {front behind : Bytes} (hb : ∀ b ∈ bs, batchIn (Ipc.encodeBatchStream schema b) 0 = .ok b)
    (hc : ∀ b ∈ bs, b.rowCount < UInt64.size)
    (hl : (front ++ (layOut schema front.length bs).1 ++ behind).length < UInt64.size) :
  List.Forall₂ (BatchSummary.StandsFor (front ++ (layOut schema front.length bs).1 ++ behind))
    (layOut schema front.length bs).2 bs
  := by
  induction bs generalizing front with
  | nil => exact .nil
  | cons b bs ih =>
    have ih := @ih (front ++ Ipc.encodeBatchStream schema b)
      (fun x hx => hb x (List.mem_cons_of_mem b hx)) fun x hx => hc x (List.mem_cons_of_mem b hx)
    simp only [layOut, List.length_append] at hl ih ⊢
    simp only [List.append_assoc] at ih ⊢
    apply List.Forall₂.cons
    · refine ⟨?_, UInt64.toNat_ofNat_of_lt' (hc b List.mem_cons_self)⟩
      rw [← List.append_assoc]
      apply batchIn_append
      · apply UInt64.toNat_ofNat_of_lt'
        omega
      · apply hb b List.mem_cons_self
    · apply ih
      omega

end FileBuilder

end BatchFile
