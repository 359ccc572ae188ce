import BatchFile.Proofs.Reader.Correct
import BatchFile.Proofs.Storage.Recorded

/-!
# How failures are reported

Whatever call of the storage fails gravely while rows are read, the read fails and says so
(`Reader.reported_read`).  A failure to open the file, to check its framing, to read its footer or
to move to a batch is reported as a failure of the storage, with its kind.  A failure to read the
bytes of a batch is reported as a defect of the file: as the cause why there is no batch.
-/

namespace BatchFile

open Storage

/-! ### Decoding streams -/

namespace Ipc

variable {s : Type} {log : s → List CallFailure} {source : Source s}

/-- The failure of a read, as a reason why there is no stream. -/
def Unreadable (f : CallFailure) (e : Failure) : Prop :=
  f.call.isRead = true ∧ e = .unreadable f.kind

section Decodings

variable (h : ∀ n, Action.Reports log Recorded.FailsReading (source n))

include h

/-- A decoding takes no grave failure for the end of the stream. -/
theorem reports_run {α : Type} (d : Decoding α) :
  Action.Reports log Unreadable (d.run source)
  := by
  induction d with
  | done r => exact .ofExcept r
  | get n mayEnd next ih =>
    rw [Decoding.run]
    apply (h n).bind_outcome
    · intro bytes
      apply ih bytes
    · intro k a
      rfl
    · rintro f _ a hg ⟨hf, rfl⟩
      exact ⟨_, Decoding.unread_of_ne mayEnd hg.kind_ne_unexpectedEof, hf, rfl⟩

variable [Decoder]

theorem reports_readSchema :
  Action.Reports log Unreadable (readSchema source)
  := by
  apply (reports_run h _).bind
  rintro (_ | schema)
  · exact .fail _
  · exact .pure schema

theorem reports_firstBatch (offset : UInt64) :
  Action.Reports log (fun f d => f.call.isRead = true
      ∧ (d = .noStream offset (.unreadable f.kind)
        ∨ d = .malformedBatch offset (.unreadable f.kind)))
    (firstBatch source offset)
  := by
  apply Action.Reports.bind
  · apply (reports_readSchema h).mapError
    rintro f _ ⟨hf, rfl⟩
    exact ⟨hf, .inl rfl⟩
  · intro schema
    apply Action.Reports.bind
    · apply (reports_run h _).mapError
      rintro f _ ⟨hf, rfl⟩
      exact ⟨hf, .inr rfl⟩
    · rintro (_ | batch)
      · exact .fail _
      · exact .pure batch

end Decodings

end Ipc

/-- The failure is reported as one of the storage. -/
def Tells (path : Path) (f : CallFailure) (e : Failure Error) : Prop :=
  e = .io path f.kind

/-! ### The framing -/

namespace Framing

variable {σ τ : Type} [Storage σ τ] (path : Path) (size : UInt64)

theorem reports_onFile {s α : Type} {log : s → List CallFailure} {call : StorageCall}
    {x : Action s IoKind α} (hx : Action.Reports log (Recorded.Fails call) x) :
  Action.Reports log (Tells path) (onFile path x)
  := by
  apply hx.mapError
  rintro _ k rfl
  rfl

theorem reports_readExact (n : Nat) :
  Action.Reports Recorded.log (Tells path)
    (onFile path (readExact n) : Action (τ × Recorded σ) (Failure Error) Bytes)
  := by
  apply (Recorded.reports_readExact n).mapError
  rintro f _ ⟨-, rfl⟩
  rfl

theorem reports_fileSize :
  Action.Reports Recorded.log (Tells path)
    (onFile path (.onSecond (fileSize path)) : Action (τ × Recorded σ) (Failure Error) UInt64)
  := reports_onFile path (Recorded.reports_fileSize path).onSecond

theorem reports_checkSize :
  Action.Reports Recorded.log (Tells path)
    (checkSize path size : Action (τ × Recorded σ) (Failure Error) Unit)
  := by
  apply Action.Reports.of_log_eq
  intro x
  rw [checkSize]
  split <;> rfl

theorem reports_checkFooterOffset (footerOffset : UInt64) :
  Action.Reports Recorded.log (Tells path)
    (checkFooterOffset path footerOffset size : Action (τ × Recorded σ) (Failure Error) Unit)
  := by
  apply Action.Reports.of_log_eq
  intro x
  rw [checkFooterOffset]
  split <;> rfl

theorem reports_readFooterOffset :
  Action.Reports Recorded.log (Tells path)
    (readFooterOffset path size : Action (τ × Recorded σ) (Failure Error) UInt64)
  := by
  apply (reports_onFile path (Recorded.reports_seek _)).bind
  intro _
  apply (reports_readExact path _).bind
  intro bytes
  exact .pure _

theorem reports_validate :
  Action.Reports Recorded.log (Tells path)
    (validate path size : Action (τ × Recorded σ) (Failure Error) UInt64)
  := by
  apply (reports_checkSize path size).bind
  intro _
  apply (reports_readFooterOffset path size).bind
  intro footerOffset
  apply (reports_readExact path _).bind
  intro magic
  have hrest : Action.Reports Recorded.log (Tells path) (do
      checkFooterOffset path footerOffset size
      return footerOffset : Action (τ × Recorded σ) (Failure Error) UInt64) := by
    apply (reports_checkFooterOffset path size footerOffset).bind
    intro _
    exact .pure footerOffset
  simp only
  split
  · apply (Recorded.reports_note _).bind
    intro _
    refine Action.Reports.bind (.fail _) ?_
    intro _
    apply hrest
  · apply hrest

theorem reports_readFooter [Ipc.Decoder] :
  Action.Reports Recorded.log (Tells path)
    (readFooter path size : Action (τ × Recorded σ) (Failure Error) (Schema × FileFooter))
  := by
  apply (reports_checkSize path size).bind
  intro _
  apply (reports_readFooterOffset path size).bind
  intro footerOffset
  apply (reports_checkFooterOffset path size footerOffset).bind
  intro _
  refine Action.Reports.bind (.ofExcept _) ?_
  intro _
  apply (reports_onFile path (Recorded.reports_seek _)).bind
  intro _
  apply (reports_readExact path _).bind
  intro bytes
  cases decodeFooter bytes with
  | ok footer => exact .pure footer
  | error defect => exact .fail _

end Framing

/-! ### Opening files -/

namespace Reader

variable {σ τ : Type} [Storage σ τ] (path : Path) (config : ReaderConfig)

theorem reports_checkOpened :
  Action.Reports Recorded.log (Tells path)
    (checkOpened path config : Action (τ × Recorded σ) (Failure Error) Unit)
  := by
  rw [checkOpened]
  split
  · apply (Framing.reports_fileSize path).bind
    intro size
    apply (Framing.reports_validate path size).bind
    intro _
    exact .pure ()
  · exact .pure ()

theorem reports_openStream :
  Action.Reports Recorded.failures (Tells path)
    (openStream path config : Action (Recorded σ) (Failure Error) τ)
  := by
  refine Action.Reports.bind (.of_log_eq fun _ => rfl) ?_
  intro _
  apply (Framing.reports_onFile path (Recorded.reports_openFile path)).bind
  intro t
  exact Recorded.reports_keeping (reports_checkOpened path config) t

theorem reports_ensureOpen (r : Reader τ) :
  Action.Reports Recorded.failures (Tells r.path)
    (ensureOpen r : Action (Recorded σ) (Failure Error) τ)
  := by
  rw [ensureOpen]
  cases r.state with
  | unopened => exact reports_openStream r.path r.config
  | opened t => exact .pure t
  | closed => exact .fail _

end Reader

/-! ### Reading rows -/

/-- The failure of a read is blamed on the batch at an offset, whose bytes it should have given. -/
def Blames (path : Path) (offset : UInt64) (f : CallFailure) (e : Failure Error) : Prop :=
  e = .dataFormat path (.noStream offset (.unreadable f.kind))
    ∨ e = .dataFormat path (.malformedBatch offset (.unreadable f.kind))

/-- The failure of a read is blamed on one of the batches at the given offsets; any other is
reported as one of the storage. -/
def TellsOrBlames (path : Path) (offsets : List UInt64) (f : CallFailure) (e : Failure Error) :
    Prop :=
  (f.call.isRead = false → Tells path f e)
    ∧ (f.call.isRead = true → ∃ offset ∈ offsets, Blames path offset f e)

namespace Reader

variable {σ τ : Type} [Storage σ τ] [Ipc.Decoder] (path : Path) (config : ReaderConfig)

theorem reports_decodeBatch (offset : UInt64) :
  Action.Reports Recorded.log (TellsOrBlames path [offset])
    (decodeBatch path offset : Action (τ × Recorded σ) (Failure Error) RecordBatch)
  := by
  rw [decodeBatch_eq]
  apply Action.Reports.bind
  · apply (Recorded.reports_seek offset).mapError
    rintro _ k rfl
    exact ⟨fun _ => rfl, nofun⟩
  · intro _
    apply (Ipc.reports_firstBatch Recorded.reports_readExact offset).mapError
    rintro f d ⟨hf, hd⟩
    constructor
    · intro h
      rw [hf] at h
      cases h
    · intro _
      use offset, List.mem_singleton_self offset
      rcases hd with rfl | rfl
      · exact .inl rfl
      · exact .inr rfl

theorem reports_readSelections (xs : List Selection) :
  Action.Reports Recorded.log (TellsOrBlames path (xs.map fun x => x.summary.offset))
    (readSelections path config xs : Action (τ × Recorded σ) (Failure Error) (List Window))
  := by
  induction xs with
  | nil => exact .pure []
  | cons x xs ih =>
    -- a failure that is blamed on some of the batches is blamed on one of all of them
    have hm : ∀ {offsets} (_ : offsets ⊆ (x :: xs).map fun x => x.summary.offset) (f e),
        TellsOrBlames path offsets f e →
        TellsOrBlames path ((x :: xs).map fun x => x.summary.offset) f e := by
      intro offsets hs f e h
      use h.1
      intro hf
      obtain ⟨offset, ho, hb⟩ := h.2 hf
      exact ⟨offset, hs ho, hb⟩
    apply ((reports_decodeBatch path x.summary.offset).weaken (hm (by simp))).bind
    intro batch
    refine Action.Reports.bind (.ofExcept _) ?_
    intro window
    apply (ih.weaken (hm (List.subset_cons_self _ _))).bind
    intro windows
    exact .pure _

theorem reports_footerSchema (known? : Option Schema) :
  Action.Reports Recorded.log (Tells path)
    (footerSchema path known? : Action (τ × Recorded σ) (Failure Error) Schema)
  := by
  cases known? with
  | some schema => exact .pure schema
  | none =>
    apply (Framing.reports_fileSize path).bind
    intro size
    apply (Framing.reports_readFooter path size).bind
    rintro ⟨schema, footer⟩
    apply (Recorded.reports_note _).bind
    intro _
    exact .pure schema

theorem reports_answerEmpty (r : Reader τ) :
  Action.Reports Recorded.log (Tells r.path)
    (answerEmpty r : Action (τ × Recorded σ) (Failure Error) Answer)
  := by
  rw [answerEmpty]
  cases r.metadata.schema? with
  | some schema => exact .pure _
  | none =>
    apply (reports_footerSchema r.path r.footerSchema?).bind
    intro schema
    exact .pure _

variable {r : Reader τ} {range : RowRange}

/-- How the failure of a call on the open stream is reported.  While rows are read, the failure of
a read is blamed on a batch that meets the range; otherwise it is reported as one of the storage,
as those of all other calls are. -/
structure Reported (r : Reader τ) (range : RowRange) (f : CallFailure) (e : Failure Error) :
    Prop where
  tells : range.limit = 0 ∨ f.call.isRead = false → Tells r.path f e
  blames : range.limit ≠ 0 → f.call.isRead = true →
    ∃ p ∈ r.metadata.footer.meeting range, Blames r.path p.summary.offset f e

theorem reports_readOpened_of_limit_zero (hl : range.limit = 0) :
  Action.Reports Recorded.log (Tells r.path)
    (readOpened r range : Action (τ × Recorded σ) (Failure Error) Answer)
  := by
  rw [readOpened]
  simp only [(RowPlan.ofRange_of_limit_zero hl).1]
  apply Action.Reports.bind (.pure [])
  intro ws
  refine Action.Reports.bind (.ofExcept _) ?_
  intro _
  have ha : Action.Reports Recorded.log (Tells r.path)
      (answerWindows r range (RowPlan.ofRange r.metadata.footer range) ws :
        Action (τ × Recorded σ) (Failure Error) Answer) := by
    rw [answerWindows]
    split
    · apply reports_answerEmpty
    · exact .pure _
  apply ha.bind
  intro answer
  apply (Recorded.reports_note _).bind
  intro _
  exact .pure answer

theorem reports_readOpened_of_rows (hc : checkRange r.metadata.recordCount range = .ok ())
    (hl : range.limit ≠ 0) :
  Action.Reports Recorded.log (TellsOrBlames r.path
      ((RowPlan.ofRange r.metadata.footer range).selections.map fun x => x.summary.offset))
    (readOpened r range : Action (τ × Recorded σ) (Failure Error) Answer)
  := by
  apply (reports_readSelections r.path r.config _).bind_of
    (fun _ _ _ => length_of_readSelections)
  intro ws hn
  refine Action.Reports.bind_of (.ofExcept _)
    (P := fun _ => (RowPlan.ofRange r.metadata.footer range).ending = .complete) ?_ ?_
  · intro x _ y h
    exact checkEnd_eq_ok_iff.mp (Prod.mk.inj h).1
  intro _ he
  -- there are windows, so nothing is read but the batches
  have hw : ws ≠ [] := fun hw => hl (limit_eq_zero_of_windows hc he hn hw)
  rw [answerWindows, if_neg hw]
  apply Action.Reports.bind (.pure _)
  intro answer
  apply (Recorded.reports_note _).bind
  intro _
  exact .pure answer

theorem reports_readOpened (hc : checkRange r.metadata.recordCount range = .ok ()) :
  Action.Reports Recorded.log (Reported r range)
    (readOpened r range : Action (τ × Recorded σ) (Failure Error) Answer)
  := by
  by_cases hl : range.limit = 0
  · apply (reports_readOpened_of_limit_zero hl).weaken
    intro f e h
    exact ⟨fun _ => h, fun hn => (hn hl).elim⟩
  · apply (reports_readOpened_of_rows hc hl).weaken
    rintro f e ⟨ht, hb⟩
    constructor
    · intro h
      exact ht (h.resolve_left hl)
    · intro _ hf
      obtain ⟨offset, ho, h⟩ := hb hf
      obtain ⟨x, hx, rfl⟩ := List.mem_map.mp ho
      obtain ⟨p, hp, rfl⟩ := RowPlan.exists_of_mem_selections (behind_lt_of_checkRange hc) hx
      exact ⟨p, hp, h⟩

/-- Whatever call of the storage fails gravely while a range that the file has is read, the read
fails and says so: with the kind of the failure if the file is being opened, and as `Reported`
says once it is open. -/
theorem reported_read (s : Recorded σ) (hc : checkRange r.metadata.recordCount range = .ok ()) :
  ∃ opening reading,
    (ensureOpen r s : Except (Failure Error) τ × Recorded σ).2.failures = s.failures ++ opening
    ∧ (read range (r, s)).2.2.failures = s.failures ++ opening ++ reading
    ∧ (∀ f ∈ opening, f.IsGrave → (read range (r, s)).1 = .error (.io r.path f.kind))
    ∧ ∀ f ∈ reading, f.IsGrave →
      ∃ e, (read range (r, s)).1 = .error e ∧ Reported r range f e
  := by
  obtain ⟨opening, ho, hr⟩ := reports_ensureOpen r s
  -- a file that has been opened has been opened without a grave failure
  have hn : ∀ t s₁, ensureOpen r s = (.ok t, s₁) → ∀ f ∈ opening, ¬ f.IsGrave := by
    intro t s₁ h f hf hg
    obtain ⟨e, he, -⟩ := hr f hf hg
    rw [h] at he
    cases he
  have hs := read_step range r s
  generalize read range (r, s) = a at hs
  cases hs with
  | refused h =>
    rw [hc] at h
    cases h
  | unopened _ h =>
    rw [h] at ho hr
    use opening, [], by rw [h, ho], by rw [ho, List.append_nil]
    refine ⟨?_, nofun⟩
    intro f hf hg
    obtain ⟨_, h, rfl⟩ := hr f hf hg
    cases h
    rfl
  | @failed t _ s₁ _ e _ h h' =>
    obtain ⟨reading, hl, hr'⟩ := reports_readOpened hc (t, s₁)
    rw [h] at ho
    rw [h'] at hl hr'
    use opening, reading, by rw [h, ho], by rw [← ho, ← hl]
    use fun f hf hg => (hn t s₁ h f hf hg).elim
    intro f hf hg
    obtain ⟨_, he, hr'⟩ := hr' f hf hg
    cases he
    exact ⟨e, rfl, hr'⟩
  | @answered t _ s₁ _ _ _ h h' =>
    obtain ⟨reading, hl, hr'⟩ := reports_readOpened hc (t, s₁)
    rw [h] at ho
    rw [h'] at hl hr'
    use opening, reading, by rw [h, ho], by rw [← ho, ← hl]
    use fun f hf hg => (hn t s₁ h f hf hg).elim
    intro f hf hg
    obtain ⟨_, he, -⟩ := hr' f hf hg
    cases he

/-! ### A read from the start of a batch -/

section ReadError

variable {n : Nat} {mayEnd : Bool} {next : Bytes → Ipc.Decoding Schema} {k : IoKind} {y z : τ × σ}
  (hd : Ipc.Decoder.schema = .get (n + 1) mayEnd next)
  (hr : Storage.read (n + 1) y = (.error k, z)) (hk : k ≠ .unexpectedEof) (hi : k ≠ .interrupted)

include hd hr hk hi

/-- If the stream fails at the first bytes of a batch, the batch is blamed. -/
theorem decodeBatch_of_read_error {path : Path} {offset : UInt64} {x : τ × σ}
    (hs : seek offset x = (.ok (), y)) :
  decodeBatch path offset x
    = (.error (.dataFormat path (.noStream offset (.unreadable k))), z)
  := by
  have he : source (n + 1) y = (.error k, z) := readExact_of_error n.succ_ne_zero hi hr
  have hm : Ipc.readSchema source y = (.error (.unreadable k), z) := by
    rw [Ipc.readSchema, hd, Action.bind_apply_error]
    rw [Ipc.Decoding.run_get_of_error he, Ipc.Decoding.unread_of_ne mayEnd hk]
  have hf : Ipc.firstBatch source offset y = (.error (.noStream offset (.unreadable k)), z) := by
    rw [Ipc.firstBatch, Action.bind_apply_error]
    rw [Action.mapError_apply, hm]
  have hx : Framing.onFile path (seek offset) x = (.ok (), y) := Action.mapError_eq_ok_iff.mpr hs
  rw [decodeBatch_eq, Action.bind_apply_ok hx, Action.mapError_apply, hf]

/-- If the stream of a reader fails at the first bytes of the first batch, the batch is blamed,
whatever the storage and whatever the reader knows of the file. -/
theorem read_of_read_error {t : τ} {s : σ} {x : Selection} {xs : List Selection}
    (ht : r.state = .opened t) (hc : checkRange r.metadata.recordCount range = .ok ())
    (hx : (RowPlan.ofRange r.metadata.footer range).selections = x :: xs)
    (hs : seek x.summary.offset (t, s) = (.ok (), y)) :
  read range (r, s)
    = (.error (.dataFormat r.path (.noStream x.summary.offset (.unreadable k))),
      ({ r with state := .opened z.1 }, z.2))
  := by
  have ho : readOpened r range (t, s)
      = (.error (.dataFormat r.path (.noStream x.summary.offset (.unreadable k))), z) := by
    rw [readOpened]
    rw [hx, Action.bind_apply_error]
    rw [readSelections, Action.bind_apply_error (decodeBatch_of_read_error hd hr hk hi hs)]
  rw [read]
  simp only [hc, ensureOpen_of_opened ht, ho]

end ReadError

end Reader

/-! ### A stream that is reset -/

namespace Sample

/-- The store of the sample file all reads of which fail. -/
def recordedReset : Recorded MemoryStore := .start resetStore

/-- A reader that has the file open already. -/
def openedReader : Reader MemoryStream :=
  { numberReader with state := .opened ⟨.ofBytes numberFile.toBytes.1, 0⟩ }

theorem checkRange_openedReader :
  Reader.checkRange openedReader.metadata.recordCount ⟨1, 3⟩ = .ok ()
  := by decide +kernel

/-- The reset is recorded, and the first batch is blamed. -/
theorem read_recordedReset :
  (Reader.read ⟨1, 3⟩ (openedReader, recordedReset)).2.2.failures = [⟨.read 4, .connectionReset⟩]
    ∧ (Reader.read ⟨1, 3⟩ (openedReader, recordedReset)).1
      = .error (.dataFormat "n" (.noStream 10 (.unreadable .connectionReset)))
  := by
  obtain ⟨x, xs, hx, ho⟩ : ∃ x xs,
      (RowPlan.ofRange openedReader.metadata.footer ⟨1, 3⟩).selections = x :: xs
        ∧ x.summary.offset = 10 := by
    have h : ((RowPlan.ofRange openedReader.metadata.footer ⟨1, 3⟩).selections.map
        fun x => x.summary.offset) = [10, 666] := by decide +kernel
    obtain ⟨x, xs, hx, ho, -⟩ := List.map_eq_cons_iff.mp h
    exact ⟨x, xs, hx, ho⟩
  rw [Reader.read_of_read_error rfl rfl (by decide) (by decide) rfl checkRange_openedReader hx rfl,
    ho]
  exact ⟨rfl, rfl⟩

end Sample

/-- A stream that is reset looks like a malformed file: the reset has been recorded and nothing is
wrong with the file, but the read does not tell of the storage. -/
theorem Reader.read_reset_numbers :
  checkRange Sample.openedReader.metadata.recordCount ⟨1, 3⟩ = .ok ()
    ∧ Sample.openedReader.metadata.Consistent Sample.numberFile.toBytes.1
    ∧ ∃ f ∈ (read ⟨1, 3⟩ (Sample.openedReader, Sample.recordedReset)).2.2.failures, f.IsGrave
      ∧ (read ⟨1, 3⟩ (Sample.openedReader, Sample.recordedReset)).1
        ≠ .error (.io Sample.openedReader.path f.kind)
      ∧ ∃ e, (read ⟨1, 3⟩ (Sample.openedReader, Sample.recordedReset)).1 = .error e
        ∧ e.isDataFormat = true
  := by
  obtain ⟨hf, hr⟩ := Sample.read_recordedReset
  use Sample.checkRange_openedReader, Sample.consistent_numberMetadata,
    ⟨.read 4, .connectionReset⟩, by rw [hf, List.mem_singleton]
  rw [hr]
  exact ⟨⟨nofun, nofun⟩, nofun, _, rfl, rfl⟩

/-- The reset is reported as all failures of reads are while rows are read. -/
theorem Reader.reported_read_numbers :
  ∃ f ∈ (read ⟨1, 3⟩ (Sample.openedReader, Sample.recordedReset)).2.2.failures, f.IsGrave
    ∧ ∃ e, (read ⟨1, 3⟩ (Sample.openedReader, Sample.recordedReset)).1 = .error e
      ∧ Reported Sample.openedReader ⟨1, 3⟩ f e
  := by
  obtain ⟨hf, -⟩ := Sample.read_recordedReset
  obtain ⟨opening, reading, ho, hl, -, hr⟩ :=
    reported_read Sample.recordedReset Sample.checkRange_openedReader
  obtain rfl : [] = opening := ho
  obtain rfl : [⟨.read 4, .connectionReset⟩] = reading := hf.symm.trans hl
  have hm := List.mem_singleton_self (⟨.read 4, .connectionReset⟩ : CallFailure)
  rw [hf]
  exact ⟨_, hm, ⟨nofun, nofun⟩, hr _ hm ⟨nofun, nofun⟩⟩

end BatchFile
