import BatchFile.Framing
import BatchFile.Proofs.Storage.View

/-!
# The framing of contents

`Framing.validateIn` and `Framing.footerIn` are what the check of the framing and the reading
of the footer give over contents; on an open stream in a sound state both operations give
just that, if they are told the length of the contents.  Contents are `Framing.Valid` if the
check passes.
-/

namespace BatchFile

namespace Framing

/-- The footer offset in the trailer of contents. -/
def footerOffsetIn (c : Bytes) : UInt64 :=
  Bytes.toWord ((c.drop (c.length - Layout.trailerSize.toNat)).take
    Layout.footerOffsetSize.toNat)

/-- The magic word in the trailer of contents. -/
def magicIn (c : Bytes) : Bytes :=
  (c.drop (c.length - Layout.magicLength.toNat)).take Layout.magicLength.toNat

theorem length_ofWord (n : UInt64) :
  (Bytes.ofWord n).length = Layout.footerOffsetSize.toNat
  := Bytes.length_littleEndian 8 n.toNat

/-- The bytes between a footer offset and the trailer. -/
def footerBytesIn (c : Bytes) : Bytes :=
  (c.drop (footerOffsetIn c).toNat).take
    (c.length - Layout.trailerSize.toNat - (footerOffsetIn c).toNat)

/-- Contents that end in a trailer have its footer offset. -/
theorem footerOffsetIn_append (front : Bytes) (footerOffset : UInt64) :
  footerOffsetIn (front ++ Bytes.ofWord footerOffset ++ Layout.magic) = footerOffset
  := by
  have ht : Layout.trailerSize.toNat = 18 := rfl
  have hm : Layout.magic.length = 10 := Layout.length_magic
  have hw := length_ofWord footerOffset
  have h8 : Layout.footerOffsetSize.toNat = 8 := rfl
  rw [footerOffsetIn, List.append_assoc, List.drop_left', List.take_left' hw, Bytes.toWord_ofWord]
  rw [List.length_append, List.length_append]
  omega

theorem magicIn_append (front : Bytes) :
  magicIn (front ++ Layout.magic) = Layout.magic
  := by
  have hm : Layout.magic.length = Layout.magicLength.toNat := Layout.length_magic
  rw [magicIn, List.length_append, hm, Nat.add_sub_cancel, List.drop_left, ← hm, List.take_length]

theorem length_footerBytesIn_lt {c : Bytes} {n : Nat} (h : c.length < n) :
  (footerBytesIn c).length < n
  := by
  rw [footerBytesIn, List.length_take, List.length_drop]
  omega

/-- The check of the length of contents. -/
def checkSizeIn (c : Bytes) : Except Defect Unit :=
  if c.length < Layout.minFileSize.toNat then
    .error (.tooSmall (UInt64.ofNat c.length) Layout.minFileSize)
  else .ok ()

/-- The check of the trailing magic word of contents. -/
def checkMagicIn (c : Bytes) : Except Defect Unit :=
  if magicIn c = Layout.magic then .ok () else .error (.wrongMagic (magicIn c))

/-- The check of the footer offset of contents. -/
def checkFooterOffsetIn (c : Bytes) : Except Defect Unit :=
  if Layout.magicLength.toNat ≤ (footerOffsetIn c).toNat
      ∧ (footerOffsetIn c).toNat < c.length - Layout.trailerSize.toNat then .ok ()
  else .error (.footerOffset (footerOffsetIn c) (UInt64.ofNat c.length))

/-- What the check of the framing gives over contents. -/
def validateIn (c : Bytes) : Except Defect UInt64 := do
  checkSizeIn c
  checkMagicIn c
  checkFooterOffsetIn c
  return footerOffsetIn c

/-- What reading the footer gives over contents. -/
def footerIn [Ipc.Decoder] (c : Bytes) : Except Defect (Schema × FileFooter) := do
  checkSizeIn c
  checkFooterOffsetIn c
  decodeFooter (footerBytesIn c)

/-- Contents that end in a trailer which leads to a footer. -/
structure Valid (c : Bytes) : Prop where
  minFileSize_le : Layout.minFileSize.toNat ≤ c.length
  magic : magicIn c = Layout.magic
  magicLength_le : Layout.magicLength.toNat ≤ (footerOffsetIn c).toNat
  footerOffset_lt : (footerOffsetIn c).toNat < c.length - Layout.trailerSize.toNat

instance (c : Bytes) : Decidable (Valid c) :=
  decidable_of_iff
    (Layout.minFileSize.toNat ≤ c.length ∧ magicIn c = Layout.magic
      ∧ Layout.magicLength.toNat ≤ (footerOffsetIn c).toNat
      ∧ (footerOffsetIn c).toNat < c.length - Layout.trailerSize.toNat)
    ⟨fun ⟨h1, h2, h3, h4⟩ => ⟨h1, h2, h3, h4⟩, fun ⟨h1, h2, h3, h4⟩ => ⟨h1, h2, h3, h4⟩⟩

theorem checkSizeIn_eq_ok_iff {c : Bytes} :
  checkSizeIn c = .ok () ↔ Layout.minFileSize.toNat ≤ c.length
  := by
  rw [checkSizeIn]
  split <;> simp <;> omega

theorem checkMagicIn_eq_ok_iff {c : Bytes} :
  checkMagicIn c = .ok () ↔ magicIn c = Layout.magic
  := by
  rw [checkMagicIn]
  split <;> simp_all

theorem checkFooterOffsetIn_eq_ok_iff {c : Bytes} :
  checkFooterOffsetIn c = .ok ()
    ↔ Layout.magicLength.toNat ≤ (footerOffsetIn c).toNat
      ∧ (footerOffsetIn c).toNat < c.length - Layout.trailerSize.toNat
  := by
  rw [checkFooterOffsetIn]
  split <;> simp_all

/-- The check passes exactly for valid contents. -/
theorem validateIn_eq_ok_iff {c : Bytes} {footerOffset : UInt64} :
  validateIn c = .ok footerOffset ↔ Valid c ∧ footerOffset = footerOffsetIn c
  := by
  rw [validateIn]
  constructor
  · intro h
    obtain ⟨_, h1, h⟩ := exceptBind_eq_ok_iff.mp h
    obtain ⟨_, h2, h⟩ := exceptBind_eq_ok_iff.mp h
    obtain ⟨_, h3, h⟩ := exceptBind_eq_ok_iff.mp h
    cases h
    obtain ⟨h3, h4⟩ := checkFooterOffsetIn_eq_ok_iff.mp h3
    exact ⟨⟨checkSizeIn_eq_ok_iff.mp h1, checkMagicIn_eq_ok_iff.mp h2, h3, h4⟩, rfl⟩
  · rintro ⟨⟨h1, h2, h3, h4⟩, rfl⟩
    rw [checkSizeIn_eq_ok_iff.mpr h1, checkMagicIn_eq_ok_iff.mpr h2,
      checkFooterOffsetIn_eq_ok_iff.mpr ⟨h3, h4⟩]
    rfl

/-- A footer in valid contents is read as it is decoded. -/
theorem footerIn_of_valid [Ipc.Decoder] {c : Bytes} (h : Valid c) :
  footerIn c = decodeFooter (footerBytesIn c)
  := by
  rw [footerIn, checkSizeIn_eq_ok_iff.mpr h.minFileSize_le,
    checkFooterOffsetIn_eq_ok_iff.mpr ⟨h.magicLength_le, h.footerOffset_lt⟩]
  rfl

/-! ### Checks that pass -/

section Checks

open Storage

variable {σ τ : Type} [Storage σ τ] {path : Path} {size footerOffset : UInt64}

theorem checkSize_of_lt (h : size < Layout.minFileSize) (t : τ) (s : σ) :
  checkSize path size (t, s)
    = (.error (.dataFormat path (.tooSmall size Layout.minFileSize)),
        (t, report (.fileTooSmall path size) s))
  := by
  rw [checkSize, if_pos h]
  rfl

theorem checkSize_eq_ok {x y : τ × σ} (h : checkSize path size x = (.ok (), y)) :
  Layout.minFileSize ≤ size
  := by
  apply UInt64.not_lt.mp
  intro hlt
  obtain ⟨t, s⟩ := x
  rw [checkSize_of_lt hlt] at h
  cases h

theorem checkFooterOffset_eq_ok {x y : τ × σ}
    (h : checkFooterOffset path footerOffset size x = (.ok (), y)) :
  Layout.magicLength ≤ footerOffset ∧ footerOffset < trailerStart size
  := by
  rw [checkFooterOffset] at h
  split at h
  · cases h
  · rename_i hc
    simpa using hc

theorem trailerSize_le (h : Layout.minFileSize ≤ size) :
  Layout.trailerSize ≤ size
  := UInt64.le_trans (by decide) h

/-- Between a footer offset that has passed its check and the trailer there are no more bytes than
the file has besides both magic words and the footer offset. -/
theorem footerLength_le (h : Layout.minFileSize ≤ size) (ho : Layout.magicLength ≤ footerOffset)
    (ht : footerOffset < trailerStart size) :
  trailerStart size - footerOffset ≤ size - Layout.minFileSize
  := by
  have h1 : Layout.trailerSize.toNat = 18 := rfl
  have h2 : Layout.magicLength.toNat = 10 := rfl
  have h3 : Layout.minFileSize.toNat = 28 := rfl
  rw [UInt64.le_iff_toNat_le] at ho ⊢
  rw [UInt64.toNat_sub_of_le _ _ (UInt64.le_of_lt ht), UInt64.toNat_sub_of_le _ _ h, trailerStart,
    UInt64.toNat_sub_of_le _ _ (trailerSize_le h)]
  omega

end Checks

/-! ### The framing of an open stream -/

section Stream

open Storage

variable {σ τ : Type} [Storage σ τ] (F : StreamFrame σ τ) (path : Path) (size : UInt64)

theorem moves_reject {s α : Type} {R : s → s → Prop} [Std.Refl R] (defect : Defect) :
  Action.Moves R (reject path defect : Action s (Failure Error) α)
  := Action.Moves.fail _

theorem moves_checkSize :
  Action.Moves F.Rel (checkSize path size : Action (τ × σ) (Failure Error) Unit)
  := by
  rw [checkSize]
  split
  · apply Action.Moves.bind (F.moves_note _)
    intro _
    exact moves_reject path _
  · exact Action.Moves.pure ()

theorem moves_checkFooterOffset (footerOffset : UInt64) :
  Action.Moves F.Rel
    (checkFooterOffset path footerOffset size : Action (τ × σ) (Failure Error) Unit)
  := by
  rw [checkFooterOffset]
  split
  · apply Action.Moves.bind (F.moves_note _)
    intro _
    exact moves_reject path _
  · exact Action.Moves.pure ()

theorem moves_readFooterOffset :
  Action.Moves F.Rel (readFooterOffset path size : Action (τ × σ) (Failure Error) UInt64)
  := by
  apply Action.Moves.bind ((F.moves_seek _).mapError _)
  intro _
  apply Action.Moves.bind ((F.moves_readExact _).mapError _)
  intro bytes
  exact Action.Moves.pure _

theorem moves_validate :
  Action.Moves F.Rel (validate path size : Action (τ × σ) (Failure Error) UInt64)
  := by
  apply Action.Moves.bind (moves_checkSize F path size)
  intro _
  apply Action.Moves.bind (moves_readFooterOffset F path size)
  intro footerOffset
  apply Action.Moves.bind ((F.moves_readExact _).mapError _)
  intro magic
  have hrest : Action.Moves F.Rel (do
      checkFooterOffset path footerOffset size
      return footerOffset : Action (τ × σ) (Failure Error) UInt64) := by
    apply Action.Moves.bind (moves_checkFooterOffset F path size footerOffset)
    intro _
    exact Action.Moves.pure footerOffset
  simp only
  split
  · apply Action.Moves.bind (F.moves_note _)
    intro _
    refine Action.Moves.bind (moves_reject path _) ?_
    intro _
    apply hrest
  · apply hrest

theorem moves_readFooter [Ipc.Decoder] :
  Action.Moves F.Rel
    (readFooter path size : Action (τ × σ) (Failure Error) (Schema × FileFooter))
  := by
  apply Action.Moves.bind (moves_checkSize F path size)
  intro _
  apply Action.Moves.bind (moves_readFooterOffset F path size)
  intro footerOffset
  apply Action.Moves.bind (moves_checkFooterOffset F path size footerOffset)
  intro _
  refine Action.Moves.bind (Action.Moves.ofExcept _) ?_
  intro _
  apply Action.Moves.bind ((F.moves_seek _).mapError _)
  intro _
  apply Action.Moves.bind ((F.moves_readExact _).mapError _)
  intro bytes
  cases decodeFooter bytes with
  | ok footer => exact Action.Moves.pure footer
  | error defect => exact moves_reject path defect

variable {V : View σ τ} {path size} {c : Bytes}

/-- The failure of a file with a defect that has been reported. -/
theorem yields_note_reject {α : Type} (e : Event) (defect : Defect) :
  Action.Yields (V.Shows c)
    (note e >>= fun _ => reject path defect : Action (τ × σ) (Failure Error) α)
    (.error (.dataFormat path defect)) (V.Shows c)
  := by
  apply (V.yields_note e).bind
  apply Action.Yields.fail _

section Size

variable (hs : size.toNat = c.length)

include hs

theorem yields_checkSize :
  Action.Yields (V.Shows c) (checkSize path size) ((checkSizeIn c).mapError (.dataFormat path))
    (V.Shows c)
  := by
  rw [checkSize, checkSizeIn]
  simp only [UInt64.lt_iff_toNat_lt, hs]
  split
  · rw [← hs, UInt64.ofNat_toNat]
    apply yields_note_reject _ _
  · apply Action.Yields.pure ()

theorem toNat_trailerStart (hl : Layout.minFileSize.toNat ≤ c.length) :
  (trailerStart size).toNat = c.length - Layout.trailerSize.toNat
  := by
  have h1 : Layout.minFileSize.toNat = 28 := rfl
  have h2 : Layout.trailerSize.toNat = 18 := rfl
  rw [trailerStart, UInt64.toNat_sub_of_le, hs]
  rw [UInt64.le_iff_toNat_le, hs]
  omega

theorem yields_checkFooterOffset (hl : Layout.minFileSize.toNat ≤ c.length) :
  Action.Yields (V.Shows c) (checkFooterOffset path (footerOffsetIn c) size)
    ((checkFooterOffsetIn c).mapError (.dataFormat path)) (V.Shows c)
  := by
  rw [checkFooterOffset, checkFooterOffsetIn]
  simp only [Bool.or_eq_true, decide_eq_true_eq, UInt64.lt_iff_toNat_lt, UInt64.le_iff_toNat_le,
    toNat_trailerStart hs hl]
  split
  · rw [if_neg (by omega), ← hs, UInt64.ofNat_toNat]
    apply yields_note_reject _ _
  · rw [if_pos (by omega)]
    apply Action.Yields.pure ()

theorem yields_readFooterOffset (hl : Layout.minFileSize.toNat ≤ c.length) :
  Action.Yields (V.Shows c) (readFooterOffset path size) (.ok (footerOffsetIn c))
    (V.ShowsAt c (c.length - Layout.magicLength.toNat))
  := by
  have h1 : Layout.minFileSize.toNat = 28 := rfl
  have h2 : Layout.trailerSize.toNat = 18 := rfl
  have h3 : Layout.footerOffsetSize.toNat = 8 := rfl
  have h4 : Layout.magicLength.toNat = 10 := rfl
  have ht := toNat_trailerStart hs hl
  apply ((V.yields_seek_of_le (by omega)).mapError _).bind
  rw [ht]
  apply ((V.yields_readExact (by omega)).mapError _).bind
  rw [show c.length - Layout.trailerSize.toNat + Layout.footerOffsetSize.toNat
    = c.length - Layout.magicLength.toNat by omega]
  apply Action.Yields.pure _

/-- Over an open stream the check of the framing gives what it gives over the contents. -/
theorem yields_validate :
  Action.Yields (V.Shows c) (validate path size) ((validateIn c).mapError (.dataFormat path))
    (V.Shows c)
  := by
  apply (yields_checkSize hs).bind_mapError
  intro _ hsize
  have hl := checkSizeIn_eq_ok_iff.mp hsize
  have h1 : Layout.minFileSize.toNat = 28 := rfl
  have h4 : Layout.magicLength.toNat = 10 := rfl
  apply (yields_readFooterOffset hs hl).bind
  apply ((V.yields_readExact (by omega)).mapError _).bind
  refine Action.Yields.weaken ?_ (fun _ => Appearance.ShowsAt.shows) fun _ => id
  rw [show (c.drop (c.length - Layout.magicLength.toNat)).take Layout.magicLength.toNat
    = magicIn c from rfl, checkMagicIn]
  simp only
  split
  · apply (V.yields_note _).bind
    exact (Action.Yields.fail _).bind_error
  · rename_i hm
    rw [if_pos (Decidable.not_not.mp hm)]
    apply (yields_checkFooterOffset hs hl).bind_mapError
    intro _ _
    apply Action.Yields.pure _

theorem toNat_footerLength (hl : Layout.minFileSize.toNat ≤ c.length)
    (ho : (footerOffsetIn c).toNat < c.length - Layout.trailerSize.toNat) :
  (trailerStart size - footerOffsetIn c).toNat = (footerBytesIn c).length
  := by
  have ht := toNat_trailerStart hs hl
  rw [UInt64.toNat_sub_of_le _ _ (UInt64.le_iff_toNat_le.mpr (by omega)), ht, footerBytesIn,
    List.length_take, List.length_drop]
  omega

/-- Over an open stream reading the footer gives what it gives over the contents, if there is room
for it in a buffer. -/
theorem yields_readFooter [Ipc.Decoder] (hc : (footerBytesIn c).length < Buffer.limit) :
  Action.Yields (V.Shows c) (readFooter path size) ((footerIn c).mapError (.dataFormat path))
    (V.Shows c)
  := by
  apply (yields_checkSize hs).bind_mapError
  intro _ hsize
  have hl := checkSizeIn_eq_ok_iff.mp hsize
  refine Action.Yields.bind ((yields_readFooterOffset hs hl).weaken (fun _ => id)
    fun _ => Appearance.ShowsAt.shows) ?_
  apply (yields_checkFooterOffset hs hl).bind_mapError
  intro _ hoffset
  have ho := checkFooterOffsetIn_eq_ok_iff.mp hoffset
  have hlength := toNat_footerLength hs hl ho.2
  have hfits : (footerBytesIn c).length
      = c.length - Layout.trailerSize.toNat - (footerOffsetIn c).toNat := by
    rw [footerBytesIn, List.length_take, List.length_drop]
    omega
  simp only
  rw [allocate, hlength, Buffer.reserve_of_lt (by omega)]
  apply (Action.Yields.ofExcept (.ok ())).bind
  apply ((V.yields_seek_of_le (by omega)).mapError _).bind
  refine Action.Yields.bind (((V.yields_readExact (by omega)).mapError _).weaken
    (fun _ => id) fun _ => Appearance.ShowsAt.shows) ?_
  rw [hfits, ← footerBytesIn]
  cases decodeFooter (footerBytesIn c) with
  | ok footer => apply Action.Yields.pure footer
  | error defect => apply Action.Yields.fail _

end Size

end Stream

end Framing

end BatchFile
