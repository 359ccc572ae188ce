import BatchFile.Proofs.Reader.Failure
import BatchFile.Storage.Observed

/-!
# Why reads fail

A read fails with a refusal of its arguments just if the file does not have the range; then nothing
has been asked of the storage and nothing has changed (`Reader.read_isInvalidArgument_iff`).  A
read of a range that the file has fails for one of the reasons that `Reader.Cause` lists, each of
which names what was found to be wrong, or else because the row plan does not come to its end
(`Reader.raises_readOpened`).  Nothing is assumed of the storage: its calls may fail and its files
may change at any time.
-/

namespace BatchFile

/-! ### What can be wrong with a file -/

namespace Defect

/-- The trailer of a file is not as it should be. -/
inductive InTrailer : Defect → Prop where
  | tooSmall {size : UInt64} (h : size < Layout.minFileSize) :
    InTrailer (.tooSmall size Layout.minFileSize)
  | wrongMagic {found : Bytes} (h : found ≠ Layout.magic) :
    InTrailer (.wrongMagic found)
  | footerOffset {offset size : UInt64}
      (h : offset < Layout.magicLength ∨ Framing.trailerStart size ≤ offset) :
    InTrailer (.footerOffset offset size)

/-- The trailer is not as it should be, or the footer that it leads to cannot be decoded. -/
inductive InFooter : Defect → Prop where
  | trailer {d : Defect} (h : d.InTrailer) : InFooter d
  | malformed (cause : WireError) : InFooter (.malformedFooter cause)
  | malformedSchema (cause : Ipc.Failure) : InFooter (.malformedFooterSchema cause)

/-- There is no batch at an offset. -/
inductive InBatch (offset : UInt64) : Defect → Prop where
  | noStream (cause : Ipc.Failure) : InBatch offset (.noStream offset cause)
  | malformed (cause : Ipc.Failure) : InBatch offset (.malformedBatch offset cause)
  | noBatch : InBatch offset (.noBatch offset)

end Defect

/-- The storage has failed on the file at a path, or the file has a defect of a certain kind. -/
inductive FileError (path : Path) (D : Defect → Prop) : Failure Error → Prop where
  | io (kind : IoKind) : FileError path D (.io path kind)
  | defect {d : Defect} (h : D d) : FileError path D (.dataFormat path d)

theorem FileError.weaken {path : Path} {D D' : Defect → Prop} {e : Failure Error}
    (h : FileError path D e) (hD : ∀ d, D d → D' d) :
  FileError path D' e
  := by
  cases h with
  | io kind => exact .io kind
  | defect h => exact .defect (hD _ h)

/-- Why the footer of a file is not read that is said to have so many bytes: the storage has failed,
the file has a defect, or the bytes between the magic words are too many for a buffer. -/
inductive FooterFailure (path : Path) (size : UInt64) : Failure Error → Prop where
  | file {e : Failure Error} (h : FileError path Defect.InFooter e) : FooterFailure path size e
  | noRoom (h : Buffer.limit ≤ size.toNat - Layout.minFileSize.toNat) :
    FooterFailure path size (.panicked .capacityOverflow)

open Storage

variable {σ τ : Type} [Storage σ τ]

/-! ### The framing -/

theorem raises_note {ε : Type} {E : ε → Prop} (event : Event) :
  Action.Raises E (note event : Action (τ × σ) ε Unit)
  := by rintro _ _ ⟨⟩

theorem raises_keeping {ε : Type} {E : ε → Prop} {x : Action (τ × σ) ε Unit}
    (h : Action.Raises E x) (t : τ) :
  Action.Raises E (keeping t x)
  := by
  intro s e he
  have h := h (t, s) e
  rw [keeping] at he
  generalize x (t, s) = a at h he
  obtain ⟨e' | _, t', s'⟩ := a
  · cases he
    apply h rfl
  · cases he

namespace Framing

variable {s α : Type} {path : Path} {D : Defect → Prop}

theorem raises_onFile (x : Action s IoKind α) :
  Action.Raises (FileError path D) (onFile path x)
  := (Action.Raises.any x).mapError fun kind _ => .io kind

theorem raises_reject {d : Defect} (h : D d) :
  Action.Raises (FileError path D) (reject path d : Action s (Failure Error) α)
  := .fail (.defect h)

theorem raises_checkSize (path : Path) (size : UInt64) :
  Action.Raises (FileError path Defect.InTrailer)
    (checkSize path size : Action (τ × σ) (Failure Error) Unit)
  := by
  rw [checkSize]
  split
  · rename_i h
    refine Action.Raises.bind (raises_note _) ?_
    intro _
    exact raises_reject (.tooSmall h)
  · exact .pure ()

theorem raises_readFooterOffset (path : Path) (size : UInt64) :
  Action.Raises (FileError path D)
    (readFooterOffset path size : Action (τ × σ) (Failure Error) UInt64)
  := by
  apply (raises_onFile _).bind
  intro _
  apply (raises_onFile _).bind
  intro bytes
  exact .pure _

theorem raises_checkFooterOffset (path : Path) (footerOffset size : UInt64) :
  Action.Raises (FileError path Defect.InTrailer)
    (checkFooterOffset path footerOffset size : Action (τ × σ) (Failure Error) Unit)
  := by
  rw [checkFooterOffset]
  split
  · rename_i h
    refine Action.Raises.bind (raises_note _) ?_
    intro _
    apply raises_reject
    apply Defect.InTrailer.footerOffset
    simpa using h
  · exact .pure ()

/-- If the check of the framing fails, then a call has failed or the trailer is wrong. -/
theorem raises_validate (path : Path) (size : UInt64) :
  Action.Raises (FileError path Defect.InTrailer)
    (validate path size : Action (τ × σ) (Failure Error) UInt64)
  := by
  apply (raises_checkSize path size).bind
  intro _
  apply (raises_readFooterOffset path size).bind
  intro footerOffset
  apply (raises_onFile _).bind
  intro magic
  have hrest : Action.Raises (FileError path Defect.InTrailer) (do
      checkFooterOffset path footerOffset size
      return footerOffset : Action (τ × σ) (Failure Error) UInt64) := by
    apply (raises_checkFooterOffset path footerOffset size).bind
    intro _
    exact .pure footerOffset
  simp only
  split
  · rename_i h
    refine Action.Raises.bind (raises_note _) ?_
    intro _
    refine Action.Raises.bind (raises_reject (.wrongMagic h)) ?_
    intro _
    apply hrest
  · apply hrest

theorem inFooter_of_decodeFooter [Ipc.Decoder] {b : Bytes} {d : Defect}
    (h : decodeFooter b = .error d) :
  d.InFooter
  := by
  rw [decodeFooter] at h
  split at h
  · cases h
    exact .malformed _
  · split at h
    · cases h
      exact .malformedSchema _
    · cases h

theorem allocate_eq_error {length : UInt64} {e : Failure Error}
    (h : (Buffer.reserve length.toNat 1).mapError Failure.panicked = .error e) :
  e = .panicked .capacityOverflow ∧ Buffer.limit ≤ length.toNat
  := by
  rw [Buffer.reserve, Nat.mul_one] at h
  split at h
  · cases h
  · rename_i hl
    cases h
    exact ⟨rfl, Nat.not_lt.mp hl⟩

/-- If reading the footer fails, then a call has failed, the trailer or the footer is wrong, or
there is no room for the footer. -/
theorem raises_readFooter [Ipc.Decoder] (path : Path) (size : UInt64) :
  Action.Raises (FooterFailure path size)
    (readFooter path size : Action (τ × σ) (Failure Error) (Schema × FileFooter))
  := by
  have hf : ∀ e, FileError path Defect.InFooter e → FooterFailure path size e := fun _ => .file
  have hd : ∀ e, FileError path Defect.InTrailer e → FooterFailure path size e :=
    fun e h => hf e (h.weaken fun _ => .trailer)
  refine Action.Raises.bind_of ((raises_checkSize path size).weaken hd)
    (fun _ _ _ => checkSize_eq_ok) ?_
  intro _ hs
  refine Action.Raises.bind ((raises_readFooterOffset path size).weaken hf) ?_
  intro footerOffset
  refine Action.Raises.bind_of ((raises_checkFooterOffset path footerOffset size).weaken hd)
    (fun _ _ _ => checkFooterOffset_eq_ok) ?_
  rintro _ ⟨ho, ht⟩
  refine Action.Raises.bind (.ofExcept ?_) ?_
  · intro e he
    obtain ⟨rfl, hl⟩ := allocate_eq_error he
    have hle := UInt64.le_iff_toNat_le.mp (footerLength_le hs ho ht)
    rw [UInt64.toNat_sub_of_le _ _ hs] at hle
    exact .noRoom (Nat.le_trans hl hle)
  intro _
  refine Action.Raises.bind ((raises_onFile _).weaken hf) ?_
  intro _
  refine Action.Raises.bind ((raises_onFile _).weaken hf) ?_
  intro bytes
  cases hb : decodeFooter bytes with
  | ok footer => exact .pure footer
  | error d => exact (raises_reject (inFooter_of_decodeFooter hb)).weaken hf

end Framing

/-! ### Batches -/

theorem Ipc.raises_firstBatch [Ipc.Decoder] {s : Type} (source : Ipc.Source s) (offset : UInt64) :
  Action.Raises (Defect.InBatch offset) (Ipc.firstBatch source offset)
  := by
  refine Action.Raises.bind ((Action.Raises.any _).mapError fun cause _ => .noStream cause) ?_
  intro schema
  refine Action.Raises.bind ((Action.Raises.any _).mapError fun cause _ => .malformed cause) ?_
  rintro (_ | batch)
  · exact .fail .noBatch
  · exact .pure batch

namespace Reader

variable {r : Reader τ} {s : σ} {range : RowRange} {e : Failure Error}

/-! ### Causes -/

/-- Why a read of a range that the file has fails, the plan for the range being all right: the
reader has been closed; a call of the storage has failed; the trailer was looked at when the file
was opened, and is wrong; the footer was looked at for a schema, and is wrong; there is no batch
where the footer says; or a batch that meets the range has another number of rows than recorded,
or, if row counts are not compared, too few for the rows wanted from it.  The last one is a panic: a
schema was looked for in a footer for which there is no room. -/
inductive Cause (r : Reader τ) (range : RowRange) : Failure Error → Prop where
  | closed (h : r.isClosed = true) :
    Cause r range (.closed r.path)
  | storage (kind : IoKind) :
    Cause r range (.io r.path kind)
  | framing {d : Defect} (hd : d.InTrailer) (hs : r.state = .unopened)
      (hv : r.config.validateFraming = true) :
    Cause r range (.dataFormat r.path d)
  | footer {d : Defect} (hd : d.InFooter) (hl : range.limit = 0)
      (hm : r.metadata.schema? = none) (hk : r.footerSchema? = none) :
    Cause r range (.dataFormat r.path d)
  | batch {p : Placed} {d : Defect} (hp : p ∈ r.metadata.footer.meeting range)
      (hd : d.InBatch p.summary.offset) :
    Cause r range (.dataFormat r.path d)
  | rowCount {p : Placed} {rows : Nat} (hp : p ∈ r.metadata.footer.meeting range)
      (hv : r.config.verifyRowCounts = true) (hn : rows ≠ p.summary.recordCount.toNat) :
    Cause r range
      (.dataFormat r.path (.rowCount p.summary.offset rows p.summary.recordCount))
  | missingBatchRows {p : Placed} (hp : p ∈ r.metadata.footer.meeting range)
      (hv : r.config.verifyRowCounts = false) :
    Cause r range (.dataFormat r.path (.missingBatchRows p.summary.offset
      (p.first range - p.before) (p.last range - p.before)))
  | noRoom (hl : range.limit = 0) (hm : r.metadata.schema? = none)
      (hk : r.footerSchema? = none) :
    Cause r range (.panicked .capacityOverflow)

/-- No cause blames the arguments. -/
theorem Cause.isInvalidArgument (h : Cause r range e) :
  e.isInvalidArgument = false
  := by cases h <;> rfl

theorem cause_of_batch {p : Placed} (hp : p ∈ r.metadata.footer.meeting range)
    (h : FileError r.path (Defect.InBatch p.summary.offset) e) :
  Cause r range e
  := by
  cases h with
  | io kind => exact .storage kind
  | defect h => exact .batch hp h

theorem cause_of_cut {p : Placed} {batch : RecordBatch}
    (hp : p ∈ r.metadata.footer.meeting range)
    (h : cut r.path r.config (p.selection range) batch = .error e) :
  Cause r range e
  := by
  rw [← errorOf?_eq_some_iff, errorOf?_cut _ _ _ (meets_of_mem_meeting hp)] at h
  split at h
  · rename_i hv
    cases h
    exact .rowCount hp hv.1 hv.2
  rename_i hv
  split at h
  · rename_i hn
    cases h
    apply Cause.missingBatchRows hp
    -- a batch with as many rows as recorded has all that are wanted from it
    apply Bool.eq_false_iff.mpr
    intro ht
    rw [Placed.last_sub_before] at hn
    exact hv ⟨ht, by omega⟩
  · cases h

theorem cause_of_footer (hl : range.limit = 0) (hm : r.metadata.schema? = none)
    (hk : r.footerSchema? = none) (e : Failure Error) (h : FileError r.path Defect.InFooter e) :
  Cause r range e
  := by
  cases h with
  | io kind => exact .storage kind
  | defect h => exact .footer h hl hm hk

theorem raises_checkOpened (path : Path) (config : ReaderConfig) :
  Action.Raises (FileError path fun d => config.validateFraming = true ∧ d.InTrailer)
    (checkOpened path config : Action (τ × σ) (Failure Error) Unit)
  := by
  rw [checkOpened]
  split
  · rename_i hv
    apply (Framing.raises_onFile _).bind
    intro size
    apply ((Framing.raises_validate path size).weaken
      fun e h => h.weaken fun d hd => ⟨hv, hd⟩).bind
    intro _
    exact .pure ()
  · exact .pure ()

theorem raises_openStream (path : Path) (config : ReaderConfig) :
  Action.Raises (FileError path fun d => config.validateFraming = true ∧ d.InTrailer)
    (openStream path config : Action σ (Failure Error) τ)
  := by
  refine Action.Raises.bind (by rintro _ _ ⟨⟩) ?_
  intro _
  apply (Framing.raises_onFile _).bind
  intro t
  apply raises_keeping (raises_checkOpened path config)

theorem raises_ensureOpen (r : Reader τ) (range : RowRange) :
  Action.Raises (Cause r range) (ensureOpen r : Action σ (Failure Error) τ)
  := by
  rw [ensureOpen]
  cases hs : r.state with
  | unopened =>
    refine (raises_openStream r.path r.config).weaken ?_
    intro e h
    cases h with
    | io kind => exact .storage kind
    | defect h => exact .framing h.2 hs h.1
  | opened t => exact .pure t
  | closed =>
    apply Action.Raises.fail
    apply Cause.closed
    rw [isClosed, hs]

/-! ### Reads -/

variable [Ipc.Decoder]

/-- If decoding a batch fails, then a call has failed or there is no batch. -/
theorem raises_decodeBatch (path : Path) (offset : UInt64) :
  Action.Raises (FileError path (Defect.InBatch offset))
    (decodeBatch path offset : Action (τ × σ) (Failure Error) RecordBatch)
  := by
  rw [decodeBatch_eq]
  apply (Framing.raises_onFile _).bind
  intro _
  exact (Ipc.raises_firstBatch source offset).mapError fun _ => .defect

/-- If reading the windows of selections fails, then decoding one of the batches does, or cutting
the window from it. -/
theorem raises_readSelections (path : Path) (config : ReaderConfig) (xs : List Selection) :
  Action.Raises (fun e => ∃ x ∈ xs, FileError path (Defect.InBatch x.summary.offset) e
      ∨ ∃ batch, cut path config x batch = .error e)
    (readSelections path config xs : Action (τ × σ) (Failure Error) (List Window))
  := by
  induction xs with
  | nil => exact .pure []
  | cons x xs ih =>
    refine Action.Raises.bind ((raises_decodeBatch path x.summary.offset).weaken fun e h =>
      ⟨x, List.mem_cons_self, .inl h⟩) ?_
    intro batch
    refine Action.Raises.bind (.ofExcept fun e h => ⟨x, List.mem_cons_self, .inr ⟨batch, h⟩⟩) ?_
    intro window
    refine Action.Raises.bind (ih.weaken fun e ⟨y, hy, h⟩ => ⟨y, .tail x hy, h⟩) ?_
    intro windows
    exact .pure _

theorem raises_answerEmpty (r : Reader τ) (hl : range.limit = 0) :
  Action.Raises (Cause r range) (answerEmpty r : Action (τ × σ) (Failure Error) Answer)
  := by
  rw [answerEmpty]
  cases hm : r.metadata.schema? with
  | some schema => exact .pure _
  | none =>
    refine Action.Raises.bind ?_ fun schema => .pure _
    cases hk : r.footerSchema? with
    | some schema => exact .pure schema
    | none =>
      have hf := @cause_of_footer _ r range hl hm hk
      refine Action.Raises.bind ((Framing.raises_onFile _).weaken hf) ?_
      intro size
      refine Action.Raises.bind ((Framing.raises_readFooter r.path size).weaken ?_) ?_
      · rintro e (h | _)
        · exact hf e h
        · exact .noRoom hl hm hk
      · rintro ⟨schema, footer⟩
        exact (raises_note _).bind fun _ => .pure schema

/-- If an open stream does not give the rows of a range that the file has, then there is a cause,
or the plan for the range does not come to its end. -/
theorem raises_readOpened (hc : checkRange r.metadata.recordCount range = .ok ()) :
  Action.Raises (fun e => Cause r range e
      ∨ checkEnd r.path range (RowPlan.ofRange r.metadata.footer range).ending = .error e)
    (readOpened r range : Action (τ × σ) (Failure Error) Answer)
  := by
  rw [readOpened]
  refine Action.Raises.bind_of ((raises_readSelections r.path r.config _).weaken ?_)
    (fun _ _ _ => length_of_readSelections) ?_
  · rintro e ⟨x, hx, h⟩
    left
    obtain ⟨p, hp, rfl⟩ := RowPlan.exists_of_mem_selections (behind_lt_of_checkRange hc) hx
    rcases h with h | ⟨batch, h⟩
    · exact cause_of_batch hp h
    · exact cause_of_cut hp h
  · intro ws hn
    refine Action.Raises.bind_of (.ofExcept fun e h => .inr h)
      (P := fun _ => (RowPlan.ofRange r.metadata.footer range).ending = .complete) ?_ ?_
    · intro x _ y h
      exact checkEnd_eq_ok_iff.mp (Prod.mk.inj h).1
    · intro _ he
      refine Action.Raises.bind ?_ fun answer => (raises_note _).bind fun _ => .pure answer
      rw [answerWindows]
      split
      · rename_i hw
        exact (raises_answerEmpty r (limit_eq_zero_of_windows hc he hn hw)).weaken fun _ => .inl
      · exact .pure _

/-- A read of a range that the file has fails for a cause, or because the plan for the range does
not come to its end. -/
theorem cause_of_read (hc : checkRange r.metadata.recordCount range = .ok ())
    (h : (read range (r, s)).1 = .error e) :
  Cause r range e
    ∨ checkEnd r.path range (RowPlan.ofRange r.metadata.footer range).ending = .error e
  := by
  have hs := read_step range r s
  generalize read range (r, s) = a at hs h
  cases hs with
  | refused hc' =>
    rw [hc] at hc'
    cases hc'
  | unopened _ ho =>
    cases h
    left
    apply raises_ensureOpen r range s
    rw [ho]
  | @failed t _ s₁ _ _ _ _ hr =>
    cases h
    apply raises_readOpened hc (t, s₁)
    rw [hr]
  | answered _ _ _ => cases h

end Reader

/-! ### Refused ranges -/

/-- A file with so many rows has the range: it starts at one of them and ends with them, where a
file without rows has the range without rows at its start. -/
def RowRange.LiesIn (recordCount : UInt64) (range : RowRange) : Prop :=
  (range.start.toNat < recordCount.toNat ∨ range.start = 0 ∧ recordCount = 0)
    ∧ range.start.toNat + range.limit.toNat ≤ recordCount.toNat

instance (recordCount : UInt64) (range : RowRange) : Decidable (range.LiesIn recordCount) :=
  inferInstanceAs (Decidable (_ ∧ _))

namespace Reader

variable {r : Reader τ} {s : σ} {range : RowRange} {e : Failure Error} {recordCount : UInt64}

theorem checkRange_eq_ok_iff_liesIn :
  checkRange recordCount range = .ok () ↔ range.LiesIn recordCount
  := checkRange_eq_ok_iff

theorem isInvalidArgument_of_checkRange (h : checkRange recordCount range = .error e) :
  e.isInvalidArgument = true
  := by
  rw [checkRange] at h
  split at h
  · split at h
    · split at h <;> cases h
      rfl
    · cases h
      rfl
  · cases h
    rfl

section Read

variable [Ipc.Decoder]

/-- A read of a range that the file does not have is refused, and nothing is done. -/
theorem read_of_not_liesIn (h : ¬ range.LiesIn r.metadata.recordCount) (s : σ) :
  ∃ e, e.isInvalidArgument = true ∧ read range (r, s) = (.error e, (r, s))
  := by
  rw [← checkRange_eq_ok_iff_liesIn] at h
  cases hc : checkRange r.metadata.recordCount range with
  | ok _ => exact (h hc).elim
  | error e =>
    use e, isInvalidArgument_of_checkRange hc
    rw [read, hc]

/-- A read blames its arguments just if the file does not have the range.  Whatever has become of
the reader, it and the storage are then as they were. -/
theorem read_isInvalidArgument_iff (range : RowRange) (r : Reader τ) (s : σ) :
  ((∃ e, (read range (r, s)).1 = .error e ∧ e.isInvalidArgument = true)
    ↔ ¬ range.LiesIn r.metadata.recordCount)
  ∧ (¬ range.LiesIn r.metadata.recordCount →
    ∃ e, e.isInvalidArgument = true ∧ read range (r, s) = (.error e, (r, s)))
  := by
  refine ⟨⟨?_, ?_⟩, fun h => read_of_not_liesIn h s⟩
  · rintro ⟨e, he, ha⟩ h
    rw [← checkRange_eq_ok_iff_liesIn] at h
    rcases cause_of_read h he with hc | hc
    · rw [hc.isInvalidArgument] at ha
      cases ha
    · generalize (RowPlan.ofRange r.metadata.footer range).ending = ending at hc
      cases ending <;> cases hc <;> cases ha
  · intro h
    obtain ⟨e, ha, he⟩ := read_of_not_liesIn h s
    use e, by rw [he]

end Read

/-- The start of the range and its length add up to more than a word, and the reader has been
closed; an observer of the storage notices nothing. -/
theorem read_isInvalidArgument_numbers :
  ∃ e, e.isInvalidArgument = true
    ∧ read ⟨3, Word.largest⟩
        ({ Sample.numberReader with state := .closed }, Observed.start Sample.numberStore)
      = (.error e,
        ({ Sample.numberReader with state := .closed }, Observed.start Sample.numberStore))
  := by
  have h := read_isInvalidArgument_iff ⟨3, Word.largest⟩
    { Sample.numberReader with state := .closed } (Observed.start Sample.numberStore)
  apply h.2
  decide +kernel

end Reader

end BatchFile
