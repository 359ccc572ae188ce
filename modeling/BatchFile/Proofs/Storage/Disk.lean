import BatchFile.Proofs.Storage.View
import BatchFile.Storage.Disk

/-!
# The view of a disk

A disk is sound if the lengths of all files are signed words.  A stream shows what its file
holds at the moment, and a stream of a directory shows nothing.  Seeks behind the signed
words are refused.
-/

namespace BatchFile

namespace Disk

/-- The contents that a name stands for, if it is that of a file. -/
def contentsAt? (d : Disk) : Node → Option Bytes
  | .directory _ => none
  | .file number => some (d.contentsOf number).toBytes

/-- Every file has a length that is a signed word. -/
def Sound (d : Disk) : Prop :=
  ∀ number, (d.contentsOf number).length < UInt64.size / 2

/-- What can be seen of a disk. -/
def appearance : Storage.Appearance Disk DiskStream where
  file? path d := (d.lookup path).toOption.bind d.contentsAt?
  contents? t d := d.contentsAt? t.node
  position t := t.position
  Sound := Sound
  refusal? p := if Word.isSigned p then none else some .invalidInput

theorem contentsAt?_length_lt {d : Disk} {node : Node} {c : Bytes} (hs : d.Sound)
    (h : d.contentsAt? node = some c) :
  c.length < UInt64.size / 2
  := by
  cases node with
  | directory number => cases h
  | file number =>
    cases h
    rw [SparseBytes.length_toBytes]
    apply hs

theorem file?_eq_some_iff {path : Path} {d : Disk} {c : Bytes} :
  appearance.file? path d = some c
    ↔ ∃ number, d.lookup path = .ok (.file number) ∧ (d.contentsOf number).toBytes = c
  := by
  simp only [appearance]
  cases h : d.lookup path with
  | error e => simp [Except.toOption]
  | ok node => cases node <;> simp [Except.toOption, contentsAt?]

/-- No call changes a disk. -/
theorem openFile_snd (path : Path) (d : Disk) :
  (Storage.openFile path d).2 = d
  := by
  simp only [Storage.openFile]
  cases d.lookup path <;> rfl

theorem fileSize_snd (path : Path) (d : Disk) :
  (Storage.fileSize path d).2 = d
  := by
  simp only [Storage.fileSize]
  rcases d.lookup path with _ | (_ | _) <;> rfl

theorem seek_snd (p : UInt64) (x : DiskStream × Disk) :
  (Storage.seek p x).2.2 = x.2 ∧ (Storage.seek p x).2.1.node = x.1.node
  := by
  simp only [Storage.seek]
  cases Word.isSigned p <;> exact ⟨rfl, rfl⟩

theorem read_snd (n : Nat) (x : DiskStream × Disk) :
  (Storage.read n x).2.2 = x.2 ∧ (Storage.read n x).2.1.node = x.1.node
  := by
  simp only [Storage.read]
  cases h : x.1.node with
  | directory number => exact ⟨rfl, h⟩
  | file number => exact ⟨rfl, rfl⟩

theorem read_file {n number : Nat} {x : DiskStream × Disk} (h : x.1.node = .file number) :
  (Storage.read n x).1
      = .ok (((x.2.contentsOf number).toBytes.drop x.1.position).take n)
    ∧ (Storage.read n x).2.1.position = x.1.position
      + (((x.2.contentsOf number).toBytes.drop x.1.position).take n).length
  := by
  simp only [Storage.read, h]
  simp

/-- The view of a disk. -/
def view : Storage.View Disk DiskStream where
  toAppearance := appearance
  length_lt := by
    intro path d c hs h
    obtain ⟨number, -, rfl⟩ := file?_eq_some_iff.mp h
    have hc : d.contentsAt? (.file number) = some (d.contentsOf number).toBytes := rfl
    exact contentsAt?_length_lt hs hc
  kept_openFile := by
    intro path d
    rw [openFile_snd]
    apply Std.Refl.refl
  openFile_eq_ok := by
    intro path d d' t h
    simp only [Storage.openFile, appearance] at h ⊢
    cases hl : d.lookup path with
    | error e =>
      rw [hl] at h
      cases h
    | ok node =>
      rw [hl] at h
      cases h
      exact ⟨rfl, rfl⟩
  openFile_sound := by
    intro path d c hs h
    obtain ⟨number, hl, rfl⟩ := file?_eq_some_iff.mp h
    use ⟨.file number, 0⟩
    simp [Storage.openFile, hl]
  kept_fileSize := by
    intro path d
    rw [fileSize_snd]
    apply Std.Refl.refl
  fileSize_sound := by
    intro path d c hs h
    obtain ⟨number, hl, rfl⟩ := file?_eq_some_iff.mp h
    simp [Storage.fileSize, hl]
  kept_seek := by
    intro p x
    rw [(seek_snd p x).1]
    apply Std.Refl.refl
  contents_seek := by
    intro p x
    simp only [appearance]
    rw [(seek_snd p x).1, (seek_snd p x).2]
  seek_eq_ok := by
    intro p x y h
    simp only [Storage.seek] at h
    cases hp : Word.isSigned p with
    | false => simp [hp] at h
    | true =>
      simp only [hp, if_true, Prod.mk.injEq, true_and] at h
      rw [← h]
      rfl
  seek_sound := by
    intro p x c hs hc
    simp only [Storage.seek, appearance]
    cases Word.isSigned p <;> rfl
  refusal?_eq_none := by
    intro p t d c hs hc hp
    have hl := contentsAt?_length_lt hs hc
    have h : Word.isSigned p = true := by
      simp only [Word.isSigned, decide_eq_true_eq]
      omega
    simp [appearance, h]
  kept_read := by
    intro n x
    rw [(read_snd n x).1]
    apply Std.Refl.refl
  contents_read := by
    intro n x
    simp only [appearance]
    rw [(read_snd n x).1, (read_snd n x).2]
  read_eq_ok := by
    intro n x y c b hc h
    simp only [appearance] at hc
    cases hx : x.1.node with
    | directory number =>
      rw [hx] at hc
      cases hc
    | file number =>
      rw [hx] at hc
      cases hc
      obtain ⟨h1, h2⟩ := read_file (n := n) hx
      rw [h] at h1 h2
      cases h1
      use List.length_take_le _ _, List.take_prefix _ _, h2
  position_of_interrupted := by
    intro n x y h
    simp only [Storage.read] at h
    cases hx : x.1.node <;> simp [hx] at h
  read_sound := by
    intro n x c hs hc
    simp only [appearance] at hc
    cases hx : x.1.node with
    | directory number =>
      rw [hx] at hc
      cases hc
    | file number =>
      rw [hx] at hc
      cases hc
      use ((x.2.contentsOf number).toBytes.drop x.1.position).take n, (read_file hx).1
      intro h
      rcases List.take_eq_nil_iff.mp h with h | h
      · exact .inl h
      · exact .inr (List.drop_eq_nil_iff.mp h)
  kept_release _ d := Std.Refl.refl d
  kept_report _ d := Std.Refl.refl d

end Disk

end BatchFile
