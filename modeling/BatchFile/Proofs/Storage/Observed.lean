import BatchFile.Proofs.Storage.Wrapping
import BatchFile.Storage.Observed

/-!
# The view of an observed storage

Observing a storage changes nothing about what can be seen of it.
-/

namespace BatchFile

namespace Observed

variable {σ τ : Type}

/-- What can be seen of the storage inside. -/
def appearance (V : Storage.Appearance σ τ) : Storage.Appearance (Observed σ) τ where
  file? path o := V.file? path o.inner
  contents? t o := V.contents? t o.inner
  position := V.position
  Sound o := V.Sound o.inner
  refusal? := V.refusal?

variable [Storage σ τ]

/-- An observed storage calls the one inside. -/
def wrapping (V : Storage.View σ τ) : Storage.Wrapping V (Observed σ) τ where
  inner := inner
  found := inner
  stream := id
  kept_found o := Std.Refl.refl o.inner
  openFile_eq path o := by
    simp only [Storage.openFile]
    generalize Storage.openFile path o.inner = a
    obtain ⟨e | t, s⟩ := a <;> rfl
  fileSize_eq _ _ := rfl
  seek_eq _ _ := rfl
  read_eq _ _ := rfl
  release_eq _ _ := rfl
  report_eq _ _ := rfl

/-- The view of the storage inside, observed. -/
def view (V : Storage.View σ τ) : Storage.View (Observed σ) τ :=
  { (wrapping V).view with toAppearance := appearance V.toAppearance }

/-- Streams are lasting if those inside are. -/
theorem lasting_view {V : Storage.View σ τ} (h : V.Lasting) :
  (view V).Lasting
  := fun t o o' => h t o.inner o'.inner

end Observed

end BatchFile
