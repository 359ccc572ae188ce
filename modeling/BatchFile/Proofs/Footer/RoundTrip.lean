import BatchFile.Proofs.Fixture.Builder
import BatchFile.Proofs.Reader.Correct

/-!
# Footers are read back

Footers are decoded from the bytes that they are encoded as, whatever comes behind these bytes.  So
whatever a file holds in front of its footer, the footer is read from the file as it was written
(`StoredFooter.readBack`).
-/

namespace BatchFile

section Files

open Storage

variable {σ τ : Type} [Storage σ τ] [Ipc.Decoder]

/-- Over a stream of a file that ends in a footer, the footer is read as it was written. -/
theorem FileBuilder.readFooter_of_shows {V : View σ τ} {path : Path} {size : UInt64} {x : τ × σ}
    {front : Bytes} {schema decoded : Schema} {footer : FileFooter}
    (hd : Ipc.schemaOf (Ipc.encodeSchemaStream schema) = .ok decoded)
    (hf : Layout.magicLength.toNat ≤ front.length)
    (hs : size.toNat = (appendFooter front schema footer).length)
    (hl : (footerBytes schema footer).length < Buffer.limit)
    (hx : V.Shows (appendFooter front schema footer) x) :
  (Framing.readFooter path size x).1 = .ok (decoded, footer)
  := by
  have hw : (appendFooter front schema footer).length < UInt64.size := hs ▸ size.toNat_lt
  rw [← footerBytesIn_appendFooter hw] at hl
  rw [(Framing.yields_readFooter hs hl x hx).1, footerIn_appendFooter hw hf hd]
  rfl

/-- Stored footers are decoded from their wire form, whatever comes behind it, and so are lists of
batches.  If the stream of a schema can be decoded, then from a file that has it in its footer,
behind a front that has room for the magic word, the footer is read with the batches that it was
written with.  The lengths that are encoded have to be words, and a buffer has to hold the encoded
footer. -/
theorem StoredFooter.readBack :
  (∀ (s : StoredFooter) (behind : Bytes), s.schema.length < UInt64.size →
    s.footer.batches.length < UInt64.size → decode (s.encode ++ behind) = .ok (s, behind))
  ∧ (∀ (f : FileFooter) (behind : Bytes), f.batches.length < UInt64.size →
    FileFooter.decode (f.encode ++ behind) = .ok (f, behind))
  ∧ ∀ (V : View σ τ) (path : Path) (size : UInt64) (x : τ × σ) (front : Bytes)
    (schema decoded : Schema) (footer : FileFooter),
    Ipc.schemaOf (Ipc.encodeSchemaStream schema) = .ok decoded →
    Layout.magicLength.toNat ≤ front.length →
    size.toNat = (FileBuilder.appendFooter front schema footer).length →
    (FileBuilder.footerBytes schema footer).length < Buffer.limit →
    V.Shows (FileBuilder.appendFooter front schema footer) x →
    (Framing.readFooter path size x).1 = .ok (decoded, footer)
  := by
  refine ⟨fun _ behind hs hf => decode_encode hs hf behind,
    fun _ behind hf => FileFooter.decode_encode hf behind, ?_⟩
  intro _ _ _ _ _ _ _ _ hd hf hs hl hx
  exact FileBuilder.readFooter_of_shows hd hf hs hl hx

end Files

/-! ### A large offset -/

namespace Sample

/-- A footer with the largest offset and the largest row count, which take ten bytes each. -/
def largestFooter : FileFooter := ⟨[⟨Word.largest, 0⟩, ⟨127, Word.largest⟩]⟩

/-- A file with this footer behind some zeros. -/
def largestFile : Bytes :=
  FileBuilder.appendFooter (List.replicate 10 0) numberSchema largestFooter

theorem shows_largestFile :
  MemoryStore.view.Shows largestFile (⟨.ofBytes largestFile, 3⟩, numberStore)
  := by
  use sound_numberStore
  exact congrArg some (SparseBytes.toBytes_ofBytes _)

end Sample

/-- The footer is decoded with other bytes in place of its schema and behind it, and it is read from
the file. -/
theorem StoredFooter.readBack_largest :
  decode (encode ⟨[1, 2, 3], Sample.largestFooter⟩ ++ [255])
      = .ok (⟨[1, 2, 3], Sample.largestFooter⟩, [255])
    ∧ FileFooter.decode (Sample.largestFooter.encode ++ [255])
      = .ok (Sample.largestFooter, [255])
    ∧ (Framing.readFooter "n" (UInt64.ofNat Sample.largestFile.length)
        ((⟨.ofBytes Sample.largestFile, 3⟩, Sample.numberStore) : MemoryStream × MemoryStore)).1
      = .ok (Sample.numberSchema, Sample.largestFooter)
  := by
  obtain ⟨hstored, hfooter, hread⟩ := @readBack MemoryStore MemoryStream _ _
  refine ⟨hstored _ _ (by decide) (by decide), hfooter _ _ (by decide), ?_⟩
  apply hread MemoryStore.view "n" _ _ (List.replicate 10 0) Sample.numberSchema
  · decide +kernel
  · decide
  · decide +kernel
  · decide +kernel
  · exact Sample.shows_largestFile

end BatchFile
