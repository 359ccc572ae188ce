import BatchFile.Proofs.Reader.Causes
import BatchFile.Proofs.Word

/-!
# Trailers of any length

The length that a storage reports for a file need not be that of the stream.  Whatever it is,
`Framing.validate` and `Framing.readFooter` form no negative difference and ask for no more bytes
than fit between the leading magic word and the trailer: they do what `Framing.validateExactly` and
`Framing.readFooterExactly` do, which stop at once otherwise (`Framing.readFooterExactly_eq`).  If
the check passes, then the trailer where the length says it is leads to a footer
(`Framing.leadsTo_of_validate`).
-/

namespace BatchFile

namespace Action

variable {σ ε ε' α β : Type}

theorem pure_bind (a : α) (f : α → Action σ ε β) :
  (pure a >>= f) = f a
  := rfl

theorem mapError_bind (g : ε → ε') (x : Action σ ε α) (f : α → Action σ ε β) :
  (x >>= f).mapError g = x.mapError g >>= fun a => (f a).mapError g
  := by
  funext s
  rw [mapError_apply, bind_apply, bind_apply, mapError_apply]
  rcases x s with ⟨e | a, t⟩ <;> rfl

/-- Two continuations of an action do the same if they do so wherever the action succeeds. -/
theorem bind_congr_ok {x : Action σ ε α} {f g : α → Action σ ε β} {s : σ}
    (h : ∀ a t, x s = (.ok a, t) → f a t = g a t) :
  (x >>= f) s = (x >>= g) s
  := by
  rw [bind_apply, bind_apply]
  rcases hx : x s with ⟨e | a, t⟩
  · rfl
  · apply h a t hx

end Action

theorem FileError.exists_eq {path : Path} {D : Defect → Prop} {e : Failure Error}
    (h : FileError path D e) :
  (∃ defect, e = .dataFormat path defect) ∨ ∃ kind, e = .io path kind
  := by
  cases h with
  | io kind => exact .inr ⟨kind, rfl⟩
  | defect h => exact .inl ⟨_, rfl⟩

namespace Framing

open Storage

variable {σ τ : Type} [Storage σ τ] {path : Path} {size footerOffset : UInt64}

/-! ### Checked access to a trailer -/

/-- Why a checked access to a trailer stops. -/
inductive Halt where
  /-- A difference is negative. -/
  | negative
  /-- A footer would have more bytes than fit between the leading magic word and the trailer. -/
  | oversized
  /-- The access fails. -/
  | failed (e : Failure Error)

/-- The difference of two words, which must not be negative. -/
def minus {s : Type} (a b : UInt64) : Action s Halt UInt64 :=
  match Word.sub? a b with
  | some d => .ok d
  | none => .fail .negative

/-- The footer offset in the trailer. -/
def readFooterOffsetExactly (path : Path) (size : UInt64) : Action (τ × σ) Halt UInt64 := do
  let start ← minus size Layout.trailerSize
  Action.mapError .failed do
    onFile path (seek start)
    let bytes ← onFile path (readExact Layout.footerOffsetSize.toNat)
    return Bytes.toWord bytes

/-- The check that a footer offset lies between the leading magic word and the trailer. -/
def checkFooterOffsetExactly (path : Path) (footerOffset size : UInt64) :
    Action (τ × σ) Halt Unit := do
  let start ← minus size Layout.trailerSize
  Action.mapError .failed do
    if footerOffset < Layout.magicLength || start ≤ footerOffset then
      note (.footerOffsetOutOfBounds path footerOffset size)
      reject path (.footerOffset footerOffset size)

/-- The check of length, trailing magic word and footer offset; gives the offset. -/
def validateExactly (path : Path) (size : UInt64) : Action (τ × σ) Halt UInt64 := do
  Action.mapError .failed (checkSize path size)
  let footerOffset ← readFooterOffsetExactly path size
  Action.mapError .failed do
    let magic ← onFile path (readExact Layout.magicLength.toNat)
    if magic ≠ Layout.magic then
      note (.magicMismatch path)
      reject path (.wrongMagic magic)
  checkFooterOffsetExactly path footerOffset size
  return footerOffset

/-- The number of bytes from a footer offset up to the trailer. -/
def footerLengthExactly {s : Type} (size footerOffset : UInt64) : Action s Halt UInt64 := do
  let start ← minus size Layout.trailerSize
  let length ← minus start footerOffset
  let most ← minus size Layout.minFileSize
  if most < length then .fail .oversized else return length

/-- The schema and the batches in the footer that the trailer leads to. -/
def readFooterExactly [Ipc.Decoder] (path : Path) (size : UInt64) :
    Action (τ × σ) Halt (Schema × FileFooter) := do
  Action.mapError .failed (checkSize path size)
  let footerOffset ← readFooterOffsetExactly path size
  checkFooterOffsetExactly path footerOffset size
  let length ← footerLengthExactly size footerOffset
  Action.mapError .failed do
    allocate length
    onFile path (seek footerOffset)
    let bytes ← onFile path (readExact length.toNat)
    match decodeFooter bytes with
    | .ok footer => return footer
    | .error defect => reject path defect

/-! ### Small files -/

theorem checkSize_of_le (h : Layout.minFileSize ≤ size) :
  (checkSize path size : Action (τ × σ) (Failure Error) Unit) = pure ()
  := by rw [checkSize, if_neg (UInt64.not_lt.mpr h)]

/-- A file that is too small is rejected before its stream is touched. -/
theorem validate_of_lt (h : size < Layout.minFileSize) (t : τ) (s : σ) :
  validate path size (t, s)
    = (.error (.dataFormat path (.tooSmall size Layout.minFileSize)),
        (t, report (.fileTooSmall path size) s))
  := by
  rw [validate]
  apply Action.bind_apply_error (checkSize_of_lt h t s)

theorem readFooter_of_lt [Ipc.Decoder] (h : size < Layout.minFileSize) (t : τ) (s : σ) :
  readFooter path size (t, s)
    = (.error (.dataFormat path (.tooSmall size Layout.minFileSize)),
        (t, report (.fileTooSmall path size) s))
  := by
  rw [readFooter]
  apply Action.bind_apply_error (checkSize_of_lt h t s)

/-! ### Streams that fail -/

/-- The check of the framing fails as the stream does that is to show the trailer. -/
theorem validate_of_read_error {x y z : τ × σ} {k : IoKind} (h : Layout.minFileSize ≤ size)
    (hs : seek (trailerStart size) x = (.ok (), y))
    (hr : read Layout.footerOffsetSize.toNat y = (.error k, z)) (hk : k ≠ .interrupted) :
  validate path size x = (.error (.io path k), z)
  := by
  have hs : onFile path (seek (trailerStart size)) x = (.ok (), y) :=
    Action.mapError_eq_ok_iff.mpr hs
  have hr : onFile path (readExact Layout.footerOffsetSize.toNat) y = (.error (.io path k), z) := by
    rw [onFile, Action.mapError_apply, readExact_of_error (by decide) hk hr]
  have ho : readFooterOffset path size x = (.error (.io path k), z) := by
    rw [readFooterOffset, Action.bind_apply_ok hs, Action.bind_apply_error hr]
  rw [validate, checkSize_of_le h, Action.pure_bind, Action.bind_apply_error ho]

/-! ### Exact differences -/

theorem minus_of_le {s : Type} {a b : UInt64} (h : b ≤ a) :
  (minus a b : Action s Halt UInt64) = pure (a - b)
  := by
  rw [minus, Word.sub?_of_le h]
  rfl

section Exact

variable (h : Layout.minFileSize ≤ size)

include h

theorem readFooterOffsetExactly_eq :
  (readFooterOffsetExactly path size : Action (τ × σ) Halt UInt64)
    = (readFooterOffset path size).mapError .failed
  := by
  rw [readFooterOffsetExactly, minus_of_le (trailerSize_le h), Action.pure_bind]
  rfl

theorem checkFooterOffsetExactly_eq :
  (checkFooterOffsetExactly path footerOffset size : Action (τ × σ) Halt Unit)
    = (checkFooterOffset path footerOffset size).mapError .failed
  := by
  rw [checkFooterOffsetExactly, minus_of_le (trailerSize_le h), Action.pure_bind]
  rfl

/-- Where the footer offset has passed its check, the length of the footer is exact. -/
theorem footerLengthExactly_eq {s : Type} (ho : Layout.magicLength ≤ footerOffset)
    (ht : footerOffset < trailerStart size) :
  (footerLengthExactly size footerOffset : Action s Halt UInt64)
    = pure (trailerStart size - footerOffset)
  := by
  have hle := footerLength_le h ho ht
  rw [footerLengthExactly, minus_of_le (trailerSize_le h), Action.pure_bind, ← trailerStart,
    minus_of_le (UInt64.le_of_lt ht), Action.pure_bind, minus_of_le h, Action.pure_bind,
    if_neg (UInt64.not_lt.mpr hle)]

end Exact

/-- The checked check of the framing does what the unchecked one does. -/
theorem validateExactly_eq :
  (validateExactly path size : Action (τ × σ) Halt UInt64)
    = (validate path size).mapError .failed
  := by
  funext x
  rw [validateExactly, validate, Action.mapError_bind _ (checkSize path size)]
  apply Action.bind_congr_ok
  intro _ y hs
  have h := checkSize_eq_ok (Action.mapError_eq_ok_iff.mp hs)
  rw [readFooterOffsetExactly_eq h, Action.mapError_bind _ (readFooterOffset path size)]
  apply Action.bind_congr_ok
  intro footerOffset z _
  simp only [Action.bind_apply, Action.mapError_apply, checkFooterOffsetExactly_eq h]
  rcases onFile path (readExact Layout.magicLength.toNat) z with ⟨e | magic, u⟩
  · rfl
  by_cases hm : magic = Layout.magic
  · simp only [hm, ne_eq, not_true_eq_false, if_false, Action.pure_apply, Action.bind_apply]
    rcases checkFooterOffset path footerOffset size u with ⟨e | _, v⟩ <;> rfl
  · simp only [hm, ne_eq, not_false_eq_true, if_true]
    rfl

/-- The checked reading of the footer does what the unchecked one does. -/
theorem readFooterExactly_eq [Ipc.Decoder] :
  (readFooterExactly path size : Action (τ × σ) Halt (Schema × FileFooter))
    = (readFooter path size).mapError .failed
  := by
  funext x
  rw [readFooterExactly, readFooter, Action.mapError_bind]
  apply Action.bind_congr_ok
  intro _ y hs
  have h := checkSize_eq_ok (Action.mapError_eq_ok_iff.mp hs)
  rw [readFooterOffsetExactly_eq h, Action.mapError_bind]
  apply Action.bind_congr_ok
  intro footerOffset z _
  rw [checkFooterOffsetExactly_eq h, Action.mapError_bind]
  apply Action.bind_congr_ok
  -- only behind the check of the offset is the length of the footer known to be exact
  intro _ u hc
  obtain ⟨ho, ht⟩ := checkFooterOffset_eq_ok (Action.mapError_eq_ok_iff.mp hc)
  have hl := congrFun (footerLengthExactly_eq h ho ht) u
  rw [Action.pure_apply] at hl
  apply (Action.bind_apply_ok hl).trans
  rfl

/-! ### What the trailer leads to -/

/-- In contents that are said to have `size` bytes, the trailer leads to a footer at the given
offset: it lies between the leading magic word and the trailer, which consists of the offset and of
the magic word. -/
structure LeadsTo (c : Bytes) (size footerOffset : UInt64) : Prop where
  magicLength_le : Layout.magicLength.toNat ≤ footerOffset.toNat
  lt_trailer : footerOffset.toNat < size.toNat - Layout.trailerSize.toNat
  offset_eq : (c.drop (size.toNat - Layout.trailerSize.toNat)).take Layout.footerOffsetSize.toNat
    = Bytes.ofWord footerOffset
  magic_eq : (c.drop (size.toNat - Layout.magicLength.toNat)).take Layout.magicLength.toNat
    = Layout.magic

section Contents

variable {V : View σ τ} {c : Bytes} {x y : τ × σ}

/-- An exact read that succeeds moves over the bytes that it gives. -/
theorem showsBehind_of_readExact {n : Nat} {b : Bytes} (hx : V.contents? x.1 x.2 = some c)
    (h : readExact n x = (.ok b, y)) :
  V.contents? y.1 y.2 = some c ∧ b = (c.drop (V.position x.1)).take n
    ∧ V.position y.1 = V.position x.1 + n ∧ b.length = n
  := by
  have hm := V.frame.moves_readExact n x
  rw [h] at hm
  obtain ⟨hl, rfl, hp⟩ := V.readExact_eq_ok hx h
  refine ⟨hm.2.trans hx, rfl, hp, ?_⟩
  rw [List.length_take, List.length_drop]
  omega

/-- The footer offset that is read stands where the reported length has the trailer. -/
theorem readFooterOffset_eq_ok (hx : V.contents? x.1 x.2 = some c)
    (h : readFooterOffset path size x = (.ok footerOffset, y)) :
  V.contents? y.1 y.2 = some c
    ∧ V.position y.1 = (trailerStart size).toNat + Layout.footerOffsetSize.toNat
    ∧ (c.drop (trailerStart size).toNat).take Layout.footerOffsetSize.toNat
      = Bytes.ofWord footerOffset
  := by
  obtain ⟨_, z, hs, h⟩ := Action.bind_eq_ok_iff.mp h
  obtain ⟨b, w, hr, h⟩ := Action.bind_eq_ok_iff.mp h
  cases h
  have hs := Action.mapError_eq_ok_iff.mp hs
  have hz : V.contents? z.1 z.2 = some c := by
    rw [← hx, ← V.contents_seek (trailerStart size) x, hs]
  obtain ⟨hy, hb, hp, hl⟩ := showsBehind_of_readExact hz (Action.mapError_eq_ok_iff.mp hr)
  rw [V.seek_eq_ok hs] at hb hp
  refine ⟨hy, hp, ?_⟩
  rw [Bytes.ofWord_toWord hl, hb]

/-- If the check passes, then the trailer leads to a footer, wherever the contents end. -/
theorem leadsTo_of_validate (hx : V.contents? x.1 x.2 = some c)
    (h : validate path size x = (.ok footerOffset, y)) :
  LeadsTo c size footerOffset
  := by
  by_cases hlt : size < Layout.minFileSize
  · obtain ⟨t, s⟩ := x
    rw [validate_of_lt hlt] at h
    cases h
  have hle := UInt64.not_lt.mp hlt
  rw [validate, checkSize_of_le hle, Action.pure_bind] at h
  obtain ⟨offset, z, ho, h⟩ := Action.bind_eq_ok_iff.mp h
  obtain ⟨magic, u, hm, h⟩ := Action.bind_eq_ok_iff.mp h
  obtain ⟨hz, hp, ho⟩ := readFooterOffset_eq_ok hx ho
  obtain ⟨-, rfl, -⟩ := showsBehind_of_readExact hz (Action.mapError_eq_ok_iff.mp hm)
  simp only at h
  split at h
  · cases h
  rename_i hmagic
  obtain ⟨_, v, hc, h⟩ := Action.bind_eq_ok_iff.mp h
  cases h
  obtain ⟨h1, h2⟩ := checkFooterOffset_eq_ok hc
  have ht : (trailerStart size).toNat = size.toNat - Layout.trailerSize.toNat :=
    UInt64.toNat_sub_of_le _ _ (trailerSize_le hle)
  have hn := UInt64.le_iff_toNat_le.mp hle
  have h28 : Layout.minFileSize.toNat = 28 := rfl
  have h18 : Layout.trailerSize.toNat = 18 := rfl
  have h10 : Layout.magicLength.toNat = 10 := rfl
  have h8 : Layout.footerOffsetSize.toNat = 8 := rfl
  rw [hp, ht] at hmagic
  rw [ht] at ho
  refine ⟨UInt64.le_iff_toNat_le.mp h1, ?_, ho, ?_⟩
  · rw [← ht]
    exact UInt64.lt_iff_toNat_lt.mp h2
  · rw [← Decidable.not_not.mp hmagic]
    congr 2
    omega

/-- If the reported length is that of the contents and the trailer leads to a footer, then the check
passes. -/
theorem validate_of_leadsTo (hx : V.Shows c x) (hs : size.toNat = c.length)
    (h : LeadsTo c size footerOffset) :
  (validate path size x).1 = .ok footerOffset
  := by
  have h28 : Layout.minFileSize.toNat = 28 := rfl
  have h18 : Layout.trailerSize.toNat = 18 := rfl
  have h10 : Layout.magicLength.toNat = 10 := rfl
  obtain ⟨h1, h2, h3, h4⟩ := h
  rw [hs] at h2 h3 h4
  have ho : footerOffsetIn c = footerOffset := by
    rw [footerOffsetIn, h3, Bytes.toWord_ofWord]
  have hv : Valid c := ⟨by omega, h4, by rw [ho]; exact h1, by rw [ho]; exact h2⟩
  rw [(yields_validate hs x hx).1, validateIn_eq_ok_iff.mpr ⟨hv, ho.symm⟩]
  rfl

/-! ### Footers without room -/

variable [Ipc.Decoder]

/-- If the trailer leads to a footer for which there is no room in a buffer, then reading it
panics. -/
theorem readFooter_of_limit_le (hx : V.Shows c x) (hs : size.toNat = c.length)
    (hm : Layout.minFileSize.toNat ≤ c.length) (ho : checkFooterOffsetIn c = .ok ())
    (hl : Buffer.limit ≤ (footerBytesIn c).length) :
  (readFooter path size x).1 = .error (.panicked .capacityOverflow)
  := by
  have h1 : Action.Yields (V.Shows c) (checkSize path size) _ (V.Shows c) := yields_checkSize hs
  have h2 : Action.Yields (V.Shows c) (readFooterOffset path size) _ (V.Shows c) :=
    (yields_readFooterOffset hs hm).weaken (fun _ => id) fun _ => Appearance.ShowsAt.shows
  have h3 : Action.Yields (V.Shows c) (checkFooterOffset path (footerOffsetIn c) size) _
      (V.Shows c) := yields_checkFooterOffset hs hm
  rw [checkSizeIn_eq_ok_iff.mpr hm] at h1
  rw [ho] at h3
  have h4 : Action.Yields (V.Shows c) (allocate (trailerStart size - footerOffsetIn c))
      (.error (.panicked .capacityOverflow)) (V.Shows c) := by
    rw [allocate, toNat_footerLength hs hm (checkFooterOffsetIn_eq_ok_iff.mp ho).2,
      Buffer.reserve_of_le (by rwa [Nat.mul_one])]
    exact Action.Yields.ofExcept _
  exact (h1.bind (h2.bind (h3.bind h4.bind_error)) x hx).1

/-- There is no room only for a footer in contents that no buffer holds. -/
theorem limit_le_of_readFooter (hx : V.contents? x.1 x.2 = some c)
    (h : (readFooter path size x).1 = .error (.panicked .capacityOverflow)) :
  Buffer.limit ≤ c.length
  := by
  have hsize : Buffer.limit ≤ size.toNat - Layout.minFileSize.toNat := by
    cases raises_readFooter path size x _ h with
    | file h => cases h
    | noRoom h => exact h
  have hle : Layout.minFileSize ≤ size := by
    rw [UInt64.le_iff_toNat_le]
    have hp : 0 < Buffer.limit := by decide
    omega
  rw [readFooter, checkSize_of_le hle, Action.pure_bind] at h
  rcases hr : readFooterOffset path size x with ⟨e | offset, y⟩
  · rw [Action.bind_apply_error hr] at h
    have he := raises_readFooterOffset (D := Defect.InTrailer) path size x e (congrArg Prod.fst hr)
    cases h
    cases he
  · obtain ⟨-, -, ho⟩ := readFooterOffset_eq_ok hx hr
    have hn := congrArg List.length ho
    rw [length_ofWord, List.length_take, List.length_drop, trailerStart,
      UInt64.toNat_sub_of_le _ _ (trailerSize_le hle)] at hn
    have h28 : Layout.minFileSize.toNat = 28 := rfl
    have h18 : Layout.trailerSize.toNat = 18 := rfl
    have h8 : Layout.footerOffsetSize.toNat = 8 := rfl
    omega

end Contents

variable [Ipc.Decoder]

/-- Whatever length is reported for a file, and whatever its stream shows and the storage does, the
check of the framing and the reading of the footer form no negative difference, and ask for no more
bytes of a footer than fit.  If they fail, then because of the data or of the storage, unless there
is no room for the footer, which takes a file of more bytes than any buffer has.  A file said
to be too small is rejected with its stream untouched.  If the check passes, then the trailer leads
to a footer, and if the length is right and no call fails, then also the other way round. -/
theorem exact_of_anySize (path : Path) (size : UInt64) :
  (∀ x : τ × σ,
    validateExactly path size x = (validate path size).mapError .failed x
    ∧ readFooterExactly path size x = (readFooter path size).mapError .failed x)
  ∧ (∀ (x : τ × σ) (e : Failure Error), (validate path size x).1 = .error e →
    (∃ defect, e = .dataFormat path defect) ∨ ∃ kind, e = .io path kind)
  ∧ (∀ (x : τ × σ) (e : Failure Error), (readFooter path size x).1 = .error e →
    ((∃ defect, e = .dataFormat path defect) ∨ ∃ kind, e = .io path kind)
      ∨ e = .panicked .capacityOverflow
        ∧ Buffer.limit ≤ size.toNat - Layout.minFileSize.toNat
        ∧ ∀ (V : View σ τ) (c : Bytes), V.contents? x.1 x.2 = some c → Buffer.limit ≤ c.length)
  ∧ (size < Layout.minFileSize → ∀ (t : τ) (s : σ),
    validate path size (t, s)
      = (.error (.dataFormat path (.tooSmall size Layout.minFileSize)),
          (t, report (.fileTooSmall path size) s))
    ∧ readFooter path size (t, s)
      = (.error (.dataFormat path (.tooSmall size Layout.minFileSize)),
          (t, report (.fileTooSmall path size) s)))
  ∧ (∀ (V : View σ τ) (c : Bytes) (x : τ × σ) (footerOffset : UInt64),
    V.contents? x.1 x.2 = some c → (validate path size x).1 = .ok footerOffset →
    LeadsTo c size footerOffset)
  ∧ ∀ (V : View σ τ) (c : Bytes) (x : τ × σ) (footerOffset : UInt64),
    V.Shows c x → size.toNat = c.length → LeadsTo c size footerOffset →
    (validate path size x).1 = .ok footerOffset
  := by
  refine ⟨?_, ?_, ?_, ?_, ?_, fun _ _ _ _ hx hs h => validate_of_leadsTo hx hs h⟩
  · intro x
    rw [validateExactly_eq, readFooterExactly_eq]
    exact ⟨rfl, rfl⟩
  · intro x e h
    apply (raises_validate path size x e h).exists_eq
  · intro x e h
    cases raises_readFooter path size x e h with
    | file h => exact .inl h.exists_eq
    | noRoom hl => exact .inr ⟨rfl, hl, fun _ _ hx => limit_le_of_readFooter hx h⟩
  · intro h t s
    exact ⟨validate_of_lt h t s, readFooter_of_lt h t s⟩
  · intro _ _ _ _ hx h
    apply leadsTo_of_validate hx (Prod.ext h rfl)

end Framing

/-! ### Three lengths of one file -/

namespace Sample

/-- An open stream of the sample file, left somewhere. -/
def numberStream : MemoryStream × MemoryStore := (⟨.ofBytes numberFile.toBytes.1, 3⟩, numberStore)

theorem shows_numberStream :
  MemoryStore.view.Shows numberFile.toBytes.1 numberStream
  := by
  use sound_numberStore
  exact congrArg some (SparseBytes.toBytes_ofBytes _)

/-- The length of the sample file. -/
def numberSize : UInt64 := .ofNat numberFile.toBytes.1.length

theorem leadsTo_numberFile :
  Framing.LeadsTo numberFile.toBytes.1 numberSize (Framing.footerOffsetIn numberFile.toBytes.1)
  where
  magicLength_le := by decide +kernel
  lt_trailer := by decide +kernel
  offset_eq := by decide +kernel
  magic_eq := by decide +kernel

end Sample

open Sample in
/-- The sample file is said to have as many bytes as a word counts, or one too few for a batch file,
or as many as it has. -/
theorem Framing.exact_of_anySize_numbers :
  readFooterExactly "n" Word.largest numberStream
      = Action.mapError .failed (readFooter "n" Word.largest) numberStream
    ∧ validate "n" 27 numberStream
      = (.error (.dataFormat "n" (.tooSmall 27 28)),
          (numberStream.1, Storage.report (.fileTooSmall "n" 27) numberStream.2))
    ∧ ((∃ defect, Failure.dataFormat "n" (.tooSmall 27 28) = .dataFormat "n" defect)
      ∨ ∃ kind, Failure.dataFormat "n" (.tooSmall 27 28) = .io "n" kind)
    ∧ (validate "n" numberSize numberStream).1 = .ok (footerOffsetIn numberFile.toBytes.1)
    ∧ LeadsTo numberFile.toBytes.1 numberSize (footerOffsetIn numberFile.toBytes.1)
  := by
  have h27 := (exact_of_anySize "n" 27).2.2.2.1 (by decide) numberStream.1 numberStream.2
  have hv : (validate "n" numberSize numberStream).1
      = .ok (footerOffsetIn numberFile.toBytes.1) := by
    apply (exact_of_anySize "n" numberSize).2.2.2.2.2 MemoryStore.view _ _ _ shows_numberStream
    · decide +kernel
    · apply leadsTo_numberFile
  refine ⟨((exact_of_anySize "n" Word.largest).1 numberStream).2, h27.1, ?_, hv, ?_⟩
  · exact (exact_of_anySize "n" 27).2.1 numberStream _ (congrArg Prod.fst h27.1)
  · apply (exact_of_anySize "n" numberSize).2.2.2.2.1 MemoryStore.view _ numberStream _
    · apply shows_numberStream.2
    · apply hv

/-! ### Trailers that are not read -/

namespace Sample

/-- Zeros with a trailer behind them that leads to the end of the leading magic word, as many bytes
together as a word counts. -/
def largestContents : Bytes :=
  List.replicate (Framing.trailerStart Word.largest).toNat 0 ++ Bytes.ofWord Layout.magicLength
    ++ Layout.magic

/-- An open stream of these contents. -/
def largestStream : MemoryStream × MemoryStore :=
  (⟨(SparseBytes.zeros (Framing.trailerStart Word.largest).toNat).append
      (.ofBytes (Bytes.ofWord Layout.magicLength ++ Layout.magic)), 0⟩, .empty)

theorem shows_largestStream :
  MemoryStore.view.Shows largestContents largestStream
  := by
  use MemoryStore.sound_empty
  apply congrArg some
  rw [largestStream, SparseBytes.toBytes_append, SparseBytes.toBytes_zeros,
    SparseBytes.toBytes_ofBytes, ← List.append_assoc]
  rfl

theorem length_largestContents :
  largestContents.length = Word.largest.toNat
  := by
  rw [largestContents, List.length_append, List.length_append, List.length_replicate]
  decide

theorem footerOffsetIn_largestContents :
  Framing.footerOffsetIn largestContents = Layout.magicLength
  := Framing.footerOffsetIn_append _ _

/-- An open stream of the sample file, all reads of which fail. -/
def resetStream : MemoryStream × MemoryStore := (numberStream.1, resetStore)

end Sample

open Sample in
/-- Reading a footer of nearly as many bytes as a word counts panics; and the check of the framing
does not find a trailer that leads to a footer if the reads of the stream fail, although the right
length is reported for the file. -/
theorem Framing.trailer_not_read :
  (readFooter "n" Word.largest largestStream).1 = .error (.panicked .capacityOverflow)
    ∧ MemoryStore.view.contents? resetStream.1 resetStream.2 = some numberFile.toBytes.1
    ∧ numberSize.toNat = numberFile.toBytes.1.length
    ∧ LeadsTo numberFile.toBytes.1 numberSize (footerOffsetIn numberFile.toBytes.1)
    ∧ (validate "n" numberSize resetStream).1 = .error (.io "n" .connectionReset)
  := by
  have h28 : Layout.minFileSize.toNat = 28 := rfl
  have h18 : Layout.trailerSize.toNat = 18 := rfl
  have h10 : Layout.magicLength.toNat = 10 := rfl
  have hlargest : Word.largest.toNat = 2 ^ 64 - 1 := rfl
  have hlimit : Buffer.limit = 2 ^ 63 := rfl
  have hl := length_largestContents
  refine ⟨?_, shows_numberStream.2, by decide +kernel, leadsTo_numberFile, ?_⟩
  · apply readFooter_of_limit_le shows_largestStream hl.symm
    · omega
    · rw [checkFooterOffsetIn_eq_ok_iff, footerOffsetIn_largestContents]
      omega
    · rw [footerBytesIn, List.length_take, List.length_drop, footerOffsetIn_largestContents]
      omega
  · have hr : validate "n" numberSize resetStream = (.error (.io "n" .connectionReset), _) :=
      validate_of_read_error (by decide +kernel) rfl rfl IoKind.noConfusion
    rw [hr]

end BatchFile
