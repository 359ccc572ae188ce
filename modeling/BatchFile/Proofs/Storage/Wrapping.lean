import BatchFile.Proofs.Storage.View

/-!
# Storages around others

A storage is around another one if its calls are calls of the other one, whatever else it does and
keeps track of, and whatever happens to the storage inside in between that cannot be seen.  What
can be seen of the storage inside is then what can be seen of the one around it (`Wrapping.view`).
-/

namespace BatchFile

namespace Storage

/-- How the calls of a storage with states `σ'` and streams `τ'` are calls of the one inside. -/
structure Wrapping {σ τ : Type} [Storage σ τ] (V : View σ τ) (σ' τ' : Type) [Storage σ' τ'] where
  /-- The storage inside. -/
  inner : σ' → σ
  /-- The storage inside as the next call finds it. -/
  found : σ' → σ
  /-- The stream of the storage inside. -/
  stream : τ' → τ
  kept_found : ∀ s, V.Kept (inner s) (found s)
  openFile_eq : ∀ path s,
    ((openFile path s).1.map stream, inner (openFile path s).2) = openFile path (found s)
  fileSize_eq : ∀ path s,
    ((fileSize path s).1, inner (fileSize path s).2) = fileSize path (found s)
  seek_eq : ∀ p x, ((seek p x).1, (stream (seek p x).2.1, inner (seek p x).2.2))
    = seek p (stream x.1, found x.2)
  read_eq : ∀ n x, ((read n x).1, (stream (read n x).2.1, inner (read n x).2.2))
    = read n (stream x.1, found x.2)
  release_eq : ∀ t s, inner (release t s) = release (stream t) (found s)
  report_eq : ∀ e s, inner (report e s) = report e (found s)

namespace Wrapping

variable {σ τ σ' τ' : Type} [Storage σ τ] [Storage σ' τ'] {V : View σ τ} (W : Wrapping V σ' τ')

/-- What can be seen of the storage inside. -/
def appearance : Appearance σ' τ' where
  file? path s := V.file? path (W.inner s)
  contents? t s := V.contents? (W.stream t) (W.inner s)
  position t := V.position (W.stream t)
  Sound s := V.Sound (W.inner s)
  refusal? := V.refusal?

variable {W}

theorem kept_of_found {s s' : σ'} (h : V.Kept (W.found s) (W.inner s')) :
  W.appearance.Kept s s'
  := by
  have h : V.Kept (W.inner s) (W.inner s') := Trans.trans (W.kept_found s) h
  exact ⟨h.sound, h.file, fun t => h.contents (W.stream t)⟩

theorem sound_found {s : σ'} (h : V.Sound (W.inner s)) :
  V.Sound (W.found s)
  := (W.kept_found s).sound h

theorem file?_found {path : Path} {s : σ'} {c : Bytes} (h : V.file? path (W.inner s) = some c) :
  V.file? path (W.found s) = some c
  := ((W.kept_found s).file path).trans h

theorem contents?_found (x : τ' × σ') :
  V.contents? (W.stream x.1) (W.found x.2) = W.appearance.contents? x.1 x.2
  := (W.kept_found x.2).contents (W.stream x.1)

variable (W)

/-- The view of the storage inside. -/
def view : View σ' τ' where
  toAppearance := W.appearance
  length_lt := V.length_lt
  kept_openFile := by
    intro path s
    apply kept_of_found
    have h := V.kept_openFile path (W.found s)
    rwa [← W.openFile_eq] at h
  openFile_eq_ok := by
    intro path s s' t h
    have ho := W.openFile_eq path s
    rw [h] at ho
    obtain ⟨hc, hp⟩ := V.openFile_eq_ok ho.symm
    exact ⟨hc.trans ((W.kept_found s).file path), hp⟩
  openFile_sound := by
    intro path s c hs hf
    obtain ⟨t, ht⟩ := V.openFile_sound (sound_found hs) (file?_found hf)
    rw [← W.openFile_eq] at ht
    cases h : (openFile path s).1 with
    | ok t' => exact ⟨t', rfl⟩
    | error e =>
      rw [h] at ht
      cases ht
  kept_fileSize := by
    intro path s
    apply kept_of_found
    have h := V.kept_fileSize path (W.found s)
    rwa [← W.fileSize_eq] at h
  fileSize_sound := by
    intro path s c hs hf
    have h := V.fileSize_sound (sound_found hs) (file?_found hf)
    rwa [← W.fileSize_eq] at h
  kept_seek := by
    intro p x
    apply kept_of_found
    have h := V.kept_seek p (W.stream x.1, W.found x.2)
    rwa [← W.seek_eq] at h
  contents_seek := by
    intro p x
    have h := V.contents_seek p (W.stream x.1, W.found x.2)
    rw [← W.seek_eq] at h
    apply h.trans (contents?_found x)
  seek_eq_ok := by
    intro p x y h
    have hs := W.seek_eq p x
    rw [h] at hs
    apply V.seek_eq_ok hs.symm
  seek_sound := by
    intro p x c hs hc
    have h := V.seek_sound (p := p) (x := (W.stream x.1, W.found x.2)) (sound_found hs)
      ((contents?_found x).trans hc)
    rwa [← W.seek_eq] at h
  refusal?_eq_none := V.refusal?_eq_none
  kept_read := by
    intro n x
    apply kept_of_found
    have h := V.kept_read n (W.stream x.1, W.found x.2)
    rwa [← W.read_eq] at h
  contents_read := by
    intro n x
    have h := V.contents_read n (W.stream x.1, W.found x.2)
    rw [← W.read_eq] at h
    apply h.trans (contents?_found x)
  read_eq_ok := by
    intro n x y c b hc h
    have hr := W.read_eq n x
    rw [h] at hr
    apply V.read_eq_ok ((contents?_found x).trans hc) hr.symm
  position_of_interrupted := by
    intro n x y h
    have hr := W.read_eq n x
    rw [h] at hr
    apply V.position_of_interrupted hr.symm
  read_sound := by
    intro n x c hs hc
    have h := V.read_sound (n := n) (x := (W.stream x.1, W.found x.2)) (sound_found hs)
      ((contents?_found x).trans hc)
    rwa [← W.read_eq] at h
  kept_release := by
    intro t s
    apply kept_of_found
    rw [W.release_eq]
    apply V.kept_release
  kept_report := by
    intro e s
    apply kept_of_found
    rw [W.report_eq]
    apply V.kept_report

end Wrapping

end Storage

end BatchFile
