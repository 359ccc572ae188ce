import BatchFile.Proofs.Storage.View
import BatchFile.Storage.Memory

/-!
# The view of files in memory

A store in memory without faults is sound, also if its reads are short, as long as they give
something.  Its streams show the contents of the opening, whatever becomes of the store.
-/

namespace BatchFile

namespace MemoryStore

/-- No call fails or lies, and every file has a length that is a signed word. -/
structure Sound (m : MemoryStore) : Prop where
  openFile : m.faults.openFile? = none
  fileSize : m.faults.fileSize? = none
  seek : m.faults.seek? = none
  read : m.faults.read? = none
  reportedSize : m.faults.reportedSize? = none
  chunk : m.faults.chunk? ≠ some 0
  length_lt : ∀ f ∈ m.files, f.2.length < Buffer.limit

/-- What can be seen of a store. -/
def appearance : Storage.Appearance MemoryStore MemoryStream where
  file? path m := (m.find? path).map SparseBytes.toBytes
  contents? t _ := some t.contents.toBytes
  position t := t.position
  Sound := Sound
  refusal? _ := none

@[simp]
theorem withFault_none {s α : Type} (x : Action s IoKind α) :
  withFault none x = x
  := rfl

theorem find?_mem {m : MemoryStore} {path : Path} {b : SparseBytes} (h : m.find? path = some b) :
  ∃ f ∈ m.files, f.2 = b
  := by
  obtain ⟨f, hf, rfl⟩ := Option.map_eq_some_iff.mp h
  use f, List.mem_of_find?_eq_some hf

/-- Opening, sizing, seeking and reading change no file. -/
theorem openFile_snd (path : Path) (m : MemoryStore) :
  (openFile path m).2 = m
  := by
  unfold openFile withFault
  cases m.faults.openFile? with
  | some k => rfl
  | none => cases m.find? path <;> rfl

theorem fileSize_snd (path : Path) (m : MemoryStore) :
  (fileSize path m).2 = m
  := by
  unfold fileSize withFault
  cases m.faults.fileSize? with
  | some k => rfl
  | none => cases m.find? path <;> rfl

theorem seek_snd (p : UInt64) (x : MemoryStream × MemoryStore) :
  (seek p x).2.2 = x.2 ∧ (seek p x).2.1.contents = x.1.contents
  := by
  unfold seek withFault
  cases x.2.faults.seek? <;> exact ⟨rfl, rfl⟩

theorem read_snd (n : Nat) (x : MemoryStream × MemoryStore) :
  (read n x).2.2 = x.2 ∧ (read n x).2.1.contents = x.1.contents
  := by
  unfold read withFault
  cases x.2.faults.read? <;> exact ⟨rfl, rfl⟩

theorem openFile_eq_ok {path : Path} {m m' : MemoryStore} {t : MemoryStream}
    (h : openFile path m = (.ok t, m')) :
  m.find? path = some t.contents ∧ t.position = 0
  := by
  unfold openFile withFault at h
  cases hf : m.faults.openFile? with
  | some k =>
    rw [hf] at h
    cases h
  | none =>
    cases hb : m.find? path with
    | none =>
      rw [hf, hb] at h
      cases h
    | some b =>
      rw [hf, hb] at h
      cases h
      exact ⟨rfl, rfl⟩

theorem read_eq_ok {n : Nat} {x y : MemoryStream × MemoryStore} {b : Bytes}
    (h : read n x = (.ok b, y)) :
  b = (x.1.contents.toBytes.drop x.1.position).take (min n (x.2.faults.chunk?.getD n))
    ∧ y.1.position = x.1.position + b.length
  := by
  unfold read withFault at h
  cases hf : x.2.faults.read? with
  | some k =>
    rw [hf] at h
    cases h
  | none =>
    rw [hf] at h
    cases h
    simp [available]

/-- The view of a store. -/
def view : Storage.View MemoryStore MemoryStream where
  toAppearance := appearance
  length_lt := by
    intro path s c hs hc
    obtain ⟨b, hb, rfl⟩ := Option.map_eq_some_iff.mp hc
    obtain ⟨f, hf, rfl⟩ := find?_mem hb
    rw [SparseBytes.length_toBytes]
    apply hs.length_lt f hf
  kept_openFile := by
    intro path s
    rw [show Storage.openFile path s = openFile path s from rfl, openFile_snd]
    apply Std.Refl.refl
  openFile_eq_ok := by
    intro path s s' t h
    obtain ⟨h1, h2⟩ := openFile_eq_ok h
    use by simp [appearance, h1], h2
  openFile_sound := by
    intro path s c hs hc
    obtain ⟨b, hb, rfl⟩ := Option.map_eq_some_iff.mp hc
    use ⟨b, 0⟩
    simp [Storage.openFile, openFile, hs.openFile, hb]
  kept_fileSize := by
    intro path s
    rw [show Storage.fileSize path s = fileSize path s from rfl, fileSize_snd]
    apply Std.Refl.refl
  fileSize_sound := by
    intro path s c hs hc
    obtain ⟨b, hb, rfl⟩ := Option.map_eq_some_iff.mp hc
    simp [Storage.fileSize, fileSize, hs.fileSize, hs.reportedSize, hb]
  kept_seek := by
    intro p x
    rw [show Storage.seek p x = seek p x from rfl, (seek_snd p x).1]
    apply Std.Refl.refl
  contents_seek := by
    intro p x
    simp only [appearance]
    rw [show Storage.seek p x = seek p x from rfl, (seek_snd p x).2]
  seek_eq_ok := by
    intro p x y h
    unfold Storage.seek instStorageMemoryStream seek withFault at h
    cases hf : x.2.faults.seek? with
    | some k =>
      simp only [hf] at h
      cases h
    | none =>
      simp only [hf] at h
      cases h
      rfl
  seek_sound := by
    intro p x c hs hc
    simp [Storage.seek, seek, hs.seek, appearance]
  refusal?_eq_none := fun _ _ _ => rfl
  kept_read := by
    intro n x
    rw [show Storage.read n x = read n x from rfl, (read_snd n x).1]
    apply Std.Refl.refl
  contents_read := by
    intro n x
    simp only [appearance]
    rw [show Storage.read n x = read n x from rfl, (read_snd n x).2]
  read_eq_ok := by
    intro n x y c b hc h
    obtain ⟨rfl, h2⟩ := read_eq_ok h
    obtain rfl := Option.some.inj hc
    use Nat.le_trans (List.length_take_le _ _) (Nat.min_le_left _ _), List.take_prefix _ _, h2
  position_of_interrupted := fun {n x y} h => (read_ne_interrupted n x y h).elim
  read_sound := by
    intro n x c hs hc
    obtain rfl := Option.some.inj hc
    use available x.1 x.2.faults n
    constructor
    · simp only [Storage.read, read, hs.read]
      rfl
    · intro h
      have hk := hs.chunk
      simp only [available, SparseBytes.toBytes_take, SparseBytes.toBytes_drop,
        List.take_eq_nil_iff, List.drop_eq_nil_iff] at h
      rcases h with h | h
      · left
        cases hq : x.2.faults.chunk? with
        | none => simpa [hq] using h
        | some k =>
          rw [hq] at h hk
          simp only [Option.getD_some, ne_eq, Option.some.injEq] at h hk
          omega
      · right
        apply h
  kept_release _ s := Std.Refl.refl s
  kept_report _ s := Std.Refl.refl s

/-- Streams in memory show the same whatever becomes of the store. -/
theorem lasting_view :
  view.Lasting
  := fun _ _ _ => rfl

/-! ### Putting files -/

theorem sound_empty :
  Sound empty
  where
  openFile := rfl
  fileSize := rfl
  seek := rfl
  read := rfl
  reportedSize := rfl
  chunk := nofun
  length_lt := nofun

/-- A sound store stays so when a file is put into it whose length is a signed
word. -/
theorem sound_put {m : MemoryStore} {path : Path} {b : SparseBytes} (h : Sound m)
    (hb : b.length < Buffer.limit) :
  Sound (m.put path b)
  where
  openFile := h.openFile
  fileSize := h.fileSize
  seek := h.seek
  read := h.read
  reportedSize := h.reportedSize
  chunk := h.chunk
  length_lt := by
    intro f hf
    rcases List.mem_cons.mp hf with rfl | hf
    · apply hb
    · apply h.length_lt f ((List.mem_filter.mp hf).1)

theorem file?_put (m : MemoryStore) (path : Path) (b : SparseBytes) :
  view.file? path (m.put path b) = some b.toBytes
  := by
  simp [view, appearance, find?, put, Path.same]

end MemoryStore

end BatchFile
