import BatchFile.Fixture.Damage
import BatchFile.Proofs.FileMetadata
import BatchFile.Proofs.Reader.Correct
import BatchFile.Proofs.Storage.Edited

/-!
# Damage and its detection

The edits that damage a trailer are addressed from the end of a file, the check of the framing
from its length.  Both mean the same bytes: what an edit puts there is what the check finds
(`Framing.footerOffsetIn_put`, `Framing.magicIn_put`), and so damage is detected for what it is
(`Damage.detected`).
-/

namespace BatchFile

/-! ### Contents with defects -/

namespace Framing

variable {b x : Bytes}

theorem validateIn_of_lt (h : b.length < Layout.minFileSize.toNat) :
  validateIn b = .error (.tooSmall (UInt64.ofNat b.length) Layout.minFileSize)
  := by
  rw [validateIn, checkSizeIn, if_pos h]
  rfl

theorem validateIn_of_magicIn_ne (hl : Layout.minFileSize.toNat ≤ b.length)
    (hm : magicIn b ≠ Layout.magic) :
  validateIn b = .error (.wrongMagic (magicIn b))
  := by
  rw [validateIn, checkSizeIn_eq_ok_iff.mpr hl, checkMagicIn, if_neg hm]
  rfl

theorem validateIn_of_magicIn_eq (hl : Layout.minFileSize.toNat ≤ b.length)
    (hm : magicIn b = Layout.magic) :
  validateIn b
    = if Layout.magicLength.toNat ≤ (footerOffsetIn b).toNat
        ∧ (footerOffsetIn b).toNat < b.length - Layout.trailerSize.toNat then
      .ok (footerOffsetIn b)
    else .error (.footerOffset (footerOffsetIn b) (UInt64.ofNat b.length))
  := by
  rw [validateIn, checkSizeIn_eq_ok_iff.mpr hl, checkMagicIn_eq_ok_iff.mpr hm, checkFooterOffsetIn]
  split <;> rfl

/-- A footer offset has room at the start of the trailer. -/
theorem footerOffset_room (hl : Layout.trailerSize.toNat ≤ b.length)
    (hx : x.length = Layout.footerOffsetSize.toNat) :
  b.length - Layout.trailerSize.toNat + x.length = b.length - Layout.magicLength.toNat
  := by
  have h1 : Layout.trailerSize.toNat = 18 := rfl
  have h2 : Layout.footerOffsetSize.toNat = 8 := rfl
  have h3 : Layout.magicLength.toNat = 10 := rfl
  omega

/-- The footer offset that is put into a trailer is found there. -/
theorem footerOffsetIn_put (hl : Layout.trailerSize.toNat ≤ b.length)
    (hx : x.length = Layout.footerOffsetSize.toNat) :
  footerOffsetIn (Bytes.put (b.length - Layout.trailerSize.toNat) x b) = Bytes.toWord x
  := by
  have hroom := footerOffset_room hl hx
  have h : b.length - Layout.trailerSize.toNat + x.length ≤ b.length := by omega
  rw [footerOffsetIn, Bytes.length_put h, ← hx, Bytes.take_drop_put h]

/-- Another footer offset leaves the magic word alone. -/
theorem magicIn_put_footerOffset (hl : Layout.trailerSize.toNat ≤ b.length)
    (hx : x.length = Layout.footerOffsetSize.toNat) :
  magicIn (Bytes.put (b.length - Layout.trailerSize.toNat) x b) = magicIn b
  := by
  have hroom := footerOffset_room hl hx
  have h : b.length - Layout.trailerSize.toNat + x.length ≤ b.length := by omega
  rw [magicIn, Bytes.length_put h, Bytes.drop_put h (Nat.le_of_eq hroom), ← magicIn]

/-- With another footer offset the check depends on that alone. -/
theorem validateIn_put_footerOffset (hl : Layout.minFileSize.toNat ≤ b.length)
    (hm : magicIn b = Layout.magic) (v : UInt64) :
  validateIn (Bytes.put (b.length - Layout.trailerSize.toNat) (Bytes.ofWord v) b)
    = if Layout.magicLength.toNat ≤ v.toNat ∧ v.toNat < b.length - Layout.trailerSize.toNat then
      .ok v
    else .error (.footerOffset v (UInt64.ofNat b.length))
  := by
  have ht : Layout.trailerSize.toNat ≤ b.length := Nat.le_trans (by decide) hl
  have hlength : (Bytes.put (b.length - Layout.trailerSize.toNat) (Bytes.ofWord v) b).length
      = b.length := by
    have hroom := footerOffset_room ht (length_ofWord v)
    exact Bytes.length_put (by omega)
  rw [validateIn_of_magicIn_eq, hlength, footerOffsetIn_put ht (length_ofWord v),
    Bytes.toWord_ofWord]
  · rwa [hlength]
  · rwa [magicIn_put_footerOffset ht (length_ofWord v)]

/-- The magic word that is put into a trailer is found there. -/
theorem magicIn_put (hl : Layout.magicLength.toNat ≤ b.length)
    (hx : x.length = Layout.magicLength.toNat) :
  magicIn (Bytes.put (b.length - Layout.magicLength.toNat) x b) = x
  := by
  have h : b.length - Layout.magicLength.toNat + x.length ≤ b.length := by omega
  rw [magicIn, Bytes.length_put h]
  rw [← hx] at h ⊢
  exact Bytes.take_drop_put h

end Framing

namespace Damage

open Storage

variable {σ τ : Type} [Storage σ τ] {V : View σ τ} {path base : Path} {b c : Bytes} {s : σ}

/-! ### Detection -/

/-- The file at a path can be opened, and the check of its framing gives an outcome. -/
def Checks (path : Path) (outcome : Except (Failure Error) UInt64) (s : σ) : Prop :=
  ∃ t s' size s'', openFile path s = (.ok t, s') ∧ fileSize path s' = (.ok size, s'')
    ∧ (Framing.validate path size (t, s'')).1 = outcome

theorem checks_of_file (hs : V.Sound s) (hf : V.file? path s = some c) :
  Checks path ((Framing.validateIn c).mapError (.dataFormat path)) s
  := by
  obtain ⟨t, s', ho, hk, hx⟩ := V.openFile_of_sound hs hf
  obtain ⟨s'', hn, hk'⟩ := V.fileSize_of_sound (hk.sound hs) ((hk.file path).trans hf)
  use t, s', UInt64.ofNat c.length, s'', ho, hn
  have hy : V.Shows c (t, s'') := ⟨hk'.sound hx.1, (hk'.contents t).trans hx.2⟩
  exact (Framing.yields_validate (Buffer.toNat_ofNat_of_lt (V.length_lt hs hf)) (t, s'') hy).1

section Rejected

variable [Ipc.Decoder] {defect : Defect}

/-- A file is rejected for a defect wherever its framing is checked: its metadata cannot be
loaded, and a reader that checks the framing when it opens the file gives nothing. -/
structure Rejected (base path : Path) (defect : Defect) (s : σ) : Prop where
  load : (FileMetadata.load base path s).1 = .error (.dataFormat (Path.join base path) defect)
  read : ∀ (r : Reader τ) (range : RowRange), r.path = Path.join base path →
    r.state = .unopened → r.config.validateFraming = true →
    Reader.checkRange r.metadata.recordCount range = .ok () →
    (Reader.read range (r, s)).1 = .error (.dataFormat (Path.join base path) defect)

theorem rejected_of_validateIn (hs : V.Sound s) (hf : V.file? (Path.join base path) s = some c)
    (hv : Framing.validateIn c = .error defect) :
  Rejected base path defect s
  where
  load := by
    rw [FileMetadata.load_of_sound hs hf, FileMetadata.loadIn, hv]
    rfl
  read r range hp hu hc hr := by
    rw [← hp] at hf ⊢
    have ho : ((Reader.openStream r.path r.config s).1.map fun _ => ())
        = Reader.checkedIn r.path r.config c := Reader.openStream_of_sound hs hf
    rw [Reader.checkedIn, if_pos hc, hv, ← Reader.ensureOpen_of_unopened hu] at ho
    rcases he : Reader.ensureOpen r s with ⟨e | t, s'⟩
    · rw [he] at ho
      cases ho
      rw [Reader.read_eq_of_ensureOpen hr he]
    · rw [he] at ho
      cases ho

end Rejected

/-! ### Edits of trailers -/

variable [Files σ] {E : Editing V}

/-- Bytes that are put at a distance from the end of a file are put in place. -/
theorem perform_overwriteEnd {distance : Nat} {x : Bytes} (h : E.Stored path b s)
    (hd : distance ≤ b.length) (hx : x.length ≤ distance) :
  ∃ s', Files.perform path (overwriteEnd distance x) s = (.ok (), s')
    ∧ E.Stored path (Bytes.put (b.length - distance) x b) s'
  := by
  have he : overwriteEnd distance x b.length = .ok (.put (b.length - distance) x) := by
    rw [overwriteEnd, if_pos hd]
  apply h.perform_of_ok he
  rw [FileChange.apply, Bytes.length_put (by omega)]
  exact V.length_lt h.sound h.file_eq

theorem perform_overwriteEnd_of_lt {distance : Nat} {x : Bytes} (h : E.Stored path b s)
    (hd : b.length < distance) :
  Files.perform path (overwriteEnd distance x) s = (.error .invalidInput, s)
  := by
  apply h.perform_of_error
  rw [overwriteEnd, if_neg (Nat.not_le.mpr hd)]

/-- The garbage that a damaged file has for a magic word. -/
def garbage : Bytes := List.replicate Layout.magicLength.toNat 0x58

theorem length_garbage :
  garbage.length = Layout.magicLength.toNat
  := List.length_replicate

theorem footerOffset_fits (hl : Layout.trailerSize.toNat ≤ b.length) (v : UInt64) :
  b.length - Layout.trailerSize.toNat + (Bytes.ofWord v).length ≤ b.length
  := by
  rw [Framing.footerOffset_room hl (Framing.length_ofWord v)]
  apply Nat.sub_le

theorem garbage_fits (hl : Layout.magicLength.toNat ≤ b.length) :
  b.length - Layout.magicLength.toNat + garbage.length ≤ b.length
  := by
  rw [length_garbage]
  omega

theorem perform_setFooterOffset (h : E.Stored path b s) (hl : Layout.trailerSize.toNat ≤ b.length)
    (v : UInt64) :
  ∃ s', Files.perform path (setFooterOffset v) s = (.ok (), s')
    ∧ E.Stored path (Bytes.put (b.length - Layout.trailerSize.toNat) (Bytes.ofWord v) b) s'
  := by
  apply perform_overwriteEnd h hl
  rw [Framing.length_ofWord]
  decide

theorem perform_corruptMagic (h : E.Stored path b s) (hl : Layout.magicLength.toNat ≤ b.length) :
  ∃ s', Files.perform path corruptMagic s = (.ok (), s')
    ∧ E.Stored path (Bytes.put (b.length - Layout.magicLength.toNat) garbage b) s'
  := perform_overwriteEnd h hl (Nat.le_of_eq length_garbage)

/-- A file is cut down to fewer bytes than it takes, or filled up to them. -/
theorem perform_truncate {n : UInt64} (h : E.Stored path b s) (hn : n < Layout.minFileSize) :
  ∃ b' s', Files.perform path (truncate n) s = (.ok (), s') ∧ E.Stored path b' s'
    ∧ b'.length = n.toNat
  := by
  have hn : n.toNat < 28 := hn
  have hlength : (b.resize n.toNat).length = n.toNat := by
    rw [Bytes.resize, List.length_append, List.length_take, List.length_replicate]
    omega
  have ht : truncate n b.length = .ok (.resize n.toNat) := by
    rw [truncate, if_pos]
    rw [Word.isSigned, decide_eq_true_eq]
    apply Nat.lt_trans hn
    decide
  obtain ⟨s', hp, hst⟩ := h.perform_of_ok ht (by
    rw [FileChange.apply, hlength]
    apply Nat.lt_trans hn
    decide)
  exact ⟨_, s', hp, hst, hlength⟩

/-! ### Damage to trailers -/

variable [Ipc.Decoder]

/-- What damage to the trailer of a file does, and how it is detected. -/
structure Detected (E : Editing V) (base path : Path) (b : Bytes) (s : σ) : Prop where
  /-- Only the footer offset is another one then, and the check of the framing gives it if it is
  within bounds and blames it otherwise. -/
  footerOffset : Layout.minFileSize.toNat ≤ b.length → Framing.magicIn b = Layout.magic →
    ∀ v : UInt64, ∃ b' s',
      Files.perform (Path.join base path) (setFooterOffset v) s = (.ok (), s')
      ∧ E.Stored (Path.join base path) b' s' ∧ b'.length = b.length
      ∧ (∀ i, i < b.length - Layout.trailerSize.toNat ∨ b.length - Layout.magicLength.toNat ≤ i →
        b'[i]? = b[i]?)
      ∧ Checks (Path.join base path)
        (if Layout.magicLength.toNat ≤ v.toNat
            ∧ v.toNat < b.length - Layout.trailerSize.toNat then .ok v
        else .error (.dataFormat (Path.join base path)
          (.footerOffset v (UInt64.ofNat b.length)))) s'
  /-- Only the magic word is another one then, for which the file is rejected. -/
  magic : Layout.minFileSize.toNat ≤ b.length → ∃ b' s',
    Files.perform (Path.join base path) corruptMagic s = (.ok (), s')
    ∧ E.Stored (Path.join base path) b' s' ∧ b'.length = b.length
    ∧ (∀ i, i < b.length - Layout.magicLength.toNat → b'[i]? = b[i]?)
    ∧ Rejected base path (.wrongMagic garbage) s'
  /-- It does not matter which of the two is done first. -/
  commute : Layout.trailerSize.toNat ≤ b.length → ∀ v : UInt64, ∃ b' s₁ s₂,
    (Files.perform (Path.join base path) (setFooterOffset v) >>= fun _ =>
      Files.perform (Path.join base path) corruptMagic) s = (.ok (), s₁)
    ∧ (Files.perform (Path.join base path) corruptMagic >>= fun _ =>
      Files.perform (Path.join base path) (setFooterOffset v)) s = (.ok (), s₂)
    ∧ E.Stored (Path.join base path) b' s₁ ∧ E.Stored (Path.join base path) b' s₂
  /-- A file that has been cut down too far is rejected for that. -/
  truncation : ∀ n : UInt64, n < Layout.minFileSize → ∃ b' s',
    Files.perform (Path.join base path) (truncate n) s = (.ok (), s')
    ∧ E.Stored (Path.join base path) b' s' ∧ b'.length = n.toNat
    ∧ Rejected base path (.tooSmall n Layout.minFileSize) s'
  /-- A file without room for a trailer is left alone. -/
  shortTrailer : b.length < Layout.trailerSize.toNat → ∀ v : UInt64,
    Files.perform (Path.join base path) (setFooterOffset v) s = (.error .invalidInput, s)
  /-- A file without room for a magic word is left alone. -/
  shortMagic : b.length < Layout.magicLength.toNat →
    Files.perform (Path.join base path) corruptMagic s = (.error .invalidInput, s)

/-- Damage to the trailer of a file does nothing else, and is detected for what it is. -/
theorem detected (h : E.Stored (Path.join base path) b s) :
  Detected E base path b s
  where
  footerOffset hl hm v := by
    have ht : Layout.trailerSize.toNat ≤ b.length := Nat.le_trans (by decide) hl
    have hfits := footerOffset_fits ht v
    have hroom := Framing.footerOffset_room ht (Framing.length_ofWord v)
    obtain ⟨s', hp, hst⟩ := perform_setFooterOffset h ht v
    refine ⟨_, s', hp, hst, Bytes.length_put hfits, ?_, ?_⟩
    · intro i hi
      rw [Bytes.getElem?_put hfits, if_neg (by omega)]
    · have hc := checks_of_file hst.sound hst.file_eq
      rw [Framing.validateIn_put_footerOffset hl hm] at hc
      split at hc
      · rename_i hv
        rwa [if_pos hv]
      · rename_i hv
        rwa [if_neg hv]
  magic hl := by
    have hm : Layout.magicLength.toNat ≤ b.length := Nat.le_trans (by decide) hl
    have hfits := garbage_fits hm
    have hg := Framing.magicIn_put hm length_garbage
    obtain ⟨s', hp, hst⟩ := perform_corruptMagic h hm
    refine ⟨_, s', hp, hst, Bytes.length_put hfits, ?_, ?_⟩
    · intro i hi
      rw [Bytes.getElem?_put hfits, if_neg (by omega)]
    · apply rejected_of_validateIn hst.sound hst.file_eq
      rw [Framing.validateIn_of_magicIn_ne _ _, hg]
      · rwa [Bytes.length_put hfits]
      · rw [hg]
        decide
  commute hl v := by
    have hm : Layout.magicLength.toNat ≤ b.length := Nat.le_trans (by decide) hl
    have hroom := Framing.footerOffset_room hl (Framing.length_ofWord v)
    have hlv := Bytes.length_put (footerOffset_fits hl v)
    have hlg := Bytes.length_put (garbage_fits hm)
    obtain ⟨s₁, hp₁, hs₁⟩ := perform_setFooterOffset h hl v
    obtain ⟨s₁', hp₁', hs₁'⟩ := perform_corruptMagic hs₁ (by rwa [hlv])
    obtain ⟨s₂, hp₂, hs₂⟩ := perform_corruptMagic h hm
    obtain ⟨s₂', hp₂', hs₂'⟩ := perform_setFooterOffset hs₂ (by rwa [hlg]) v
    rw [hlv] at hs₁'
    rw [hlg, Bytes.put_comm (Nat.le_of_eq hroom) (garbage_fits hm)] at hs₂'
    refine ⟨_, s₁', s₂', ?_, ?_, hs₁', hs₂'⟩
    · rw [Action.bind_apply_ok hp₁, hp₁']
    · rw [Action.bind_apply_ok hp₂, hp₂']
  truncation n hn := by
    obtain ⟨b', s', hp, hst, hl⟩ := perform_truncate h hn
    refine ⟨b', s', hp, hst, hl, ?_⟩
    apply rejected_of_validateIn hst.sound hst.file_eq
    have hlt : b'.length < Layout.minFileSize.toNat := hl ▸ hn
    rw [Framing.validateIn_of_lt hlt, hl, UInt64.ofNat_toNat]
  shortTrailer hl v := perform_overwriteEnd_of_lt h hl
  shortMagic hl := perform_overwriteEnd_of_lt h hl

end Damage

/-- A disk with the sample file. -/
def Sample.numberDisk : Disk where
  directories := #[⟨Disk.root, []⟩, ⟨Disk.root, []⟩, ⟨Disk.enclosing, [("n", .file 0)]⟩]
  files := [.ofBytes numberFile.toBytes.1]

theorem Sample.stored_numberDisk :
  Disk.editing.Stored (Path.join "" "n") numberFile.toBytes.1 numberDisk
  where
  sound number := by
    cases number with
    | zero => decide +kernel
    | succ number =>
      show (SparseBytes.ofBytes []).length < Buffer.limit
      decide
  file_eq := Disk.file?_eq_some_iff.mpr
    ⟨0, by decide +kernel, SparseBytes.toBytes_ofBytes _⟩
  editable := ⟨0, by decide +kernel, Nat.one_pos⟩

/-- The sample file on a disk is long enough for any damage to its trailer. -/
theorem Damage.detected_numbers :
  Layout.minFileSize.toNat ≤ Sample.numberFile.toBytes.1.length
    ∧ Framing.magicIn Sample.numberFile.toBytes.1 = Layout.magic
    ∧ Disk.editing.Stored (Path.join "" "n") Sample.numberFile.toBytes.1 Sample.numberDisk
    ∧ Detected Disk.editing "" "n" Sample.numberFile.toBytes.1 Sample.numberDisk
  := by
  obtain ⟨hl, hm, -⟩ := Sample.valid_numberFile
  exact ⟨hl, hm, Sample.stored_numberDisk, detected Sample.stored_numberDisk⟩

end BatchFile
