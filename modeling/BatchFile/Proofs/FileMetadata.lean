import BatchFile.FileMetadata
import BatchFile.Proofs.Footer
import BatchFile.Proofs.Framing

/-!
# Loading metadata

Loading changes nothing that can be seen of the storage (`FileMetadata.kept_load`), and in a
sound state it gives what the contents of the file say (`FileMetadata.load_of_sound`).
-/

namespace BatchFile

namespace FileMetadata

open Storage

variable {σ τ : Type} [Storage σ τ] [Ipc.Decoder]

theorem moves_read (F : StreamFrame σ τ) (resolved path : Path) (size : UInt64) :
  Action.Moves F.Rel (read resolved path size : Action (τ × σ) (Failure Error) FileMetadata)
  := by
  apply Action.Moves.bind (Framing.moves_validate F resolved size)
  intro _
  apply Action.Moves.bind (Framing.moves_readFooter F resolved size)
  rintro ⟨schema, footer⟩
  cases hn : footer.tryRecordCount with
  | none =>
    simp only [hn]
    exact Framing.moves_reject resolved _
  | some records =>
    simp only [hn]
    apply Action.Moves.bind (F.moves_note _)
    intro _
    exact Action.Moves.pure _

/-- Loading metadata changes nothing that can be seen of the storage. -/
theorem kept_load (V : View σ τ) (base path : Path) :
  Action.Moves V.Kept (load base path : Action σ (Failure Error) FileMetadata)
  := by
  apply Action.Moves.bind ((V.moves_fileSize _).mapError _)
  intro size
  apply Action.Moves.bind ((V.moves_openFile _).mapError _)
  intro stream
  apply V.moves_releasing (moves_read V.frame.toStreamFrame _ path size)

/-- What loading gives over contents. -/
def loadIn (path : Path) (c : Bytes) : Except Defect FileMetadata := do
  let _ ← Framing.validateIn c
  let (schema, footer) ← Framing.footerIn c
  match footer.tryRecordCount with
  | none => .error .countsTooLarge
  | some _ => return ofFooter path footer (some schema)

variable {V : View σ τ} {c : Bytes}

theorem yields_read {resolved path : Path} {size : UInt64} (hs : size.toNat = c.length)
    (hc : c.length < Buffer.limit) :
  Action.Yields (V.Shows c) (read resolved path size)
    ((loadIn path c).mapError (.dataFormat resolved)) (V.Shows c)
  := by
  apply (Framing.yields_validate hs).bind_mapError
  intro _ _
  apply (Framing.yields_readFooter hs (Framing.length_footerBytesIn_lt hc)).bind_mapError
  rintro ⟨schema, footer⟩ _
  simp only
  cases footer.tryRecordCount with
  | none => apply Action.Yields.fail _
  | some records =>
    apply (V.yields_note _).bind
    apply Action.Yields.pure _

/-- In a sound state loading gives what the contents of the file say. -/
theorem load_of_sound {base path : Path} {s : σ} (hs : V.Sound s)
    (hf : V.file? (Path.join base path) s = some c) :
  (load base path s).1 = (loadIn path c).mapError (.dataFormat (Path.join base path))
  := by
  obtain ⟨s₁, hn, hk⟩ := V.fileSize_of_sound hs hf
  obtain ⟨t, s₂, ho, -, hx⟩ := V.openFile_of_sound (hk.sound hs) ((hk.file _).trans hf)
  have hm : Framing.onFile (Path.join base path) (fileSize (Path.join base path)) s
      = (.ok (UInt64.ofNat c.length), s₁) := Action.mapError_eq_ok_iff.mpr hn
  have hm₁ : Framing.onFile (Path.join base path) (openFile (Path.join base path)) s₁
      = (.ok t, s₂) := Action.mapError_eq_ok_iff.mpr ho
  rw [load]
  rw [Action.bind_apply_ok hm, Action.bind_apply_ok hm₁]
  have hc := V.length_lt hs hf
  exact (yields_read (Buffer.toNat_ofNat_of_lt hc) hc (t, s₂) hx).1

end FileMetadata

end BatchFile
