import BatchFile.Proofs.Reader.Counters
import BatchFile.Proofs.Reader.Records
import BatchFile.Proofs.Reader.Remembers
import BatchFile.Proofs.Storage.Traced

/-!
# The calls of a reader

What a reader asks of its storage depends on its state and on what it remembers.  The schema for
reads without rows is known from the metadata or from an earlier read of the footer; a read keeps
what is known, and only a read without rows that succeeds adds to it (`knownSchema?_read`).  So the
history of a reader tells what is known (`knownSchema?_of_history`), and with that on which reads
files are called and how often (`callsFiles_of_history`).
-/

namespace BatchFile

namespace Reader

open Storage

variable {σ τ : Type} [Storage σ τ] {r : Reader τ} {s : σ} {range : RowRange} {schema : Schema}

/-! ### The schema of reads without rows -/

/-- The schema that the reader has for reads without rows. -/
def knownSchema? (r : Reader τ) : Option Schema :=
  r.metadata.schema?.or r.footerSchema?

/-- The work of a read without rows. -/
def emptyWork : ReadStats :=
  { ReadStats.zero with reads := 1, emptyResults := 1 }

/-- The report of a read of a range that gives an answer. -/
def Answer.event (r : Reader τ) (range : RowRange) (answer : Answer) : Event :=
  .rangeRead r.path range.start range.limit (UInt64.ofNat answer.windows.length)
    answer.work.batchesDecoded answer.work.batchesSkipped

/-- The schema for reads without rows is known to a reader with this metadata and history: it is
in the metadata, or a read without rows has succeeded. -/
def KnowsSchema (m : FileMetadata)
    (calls : List (RowRange × Except (Failure Error) (List Window))) : Prop :=
  m.schema? ≠ none ∨ ∃ c ∈ calls, c.1.limit = 0 ∧ c.2.isOk = true

theorem knowsSchema_append_iff {m : FileMetadata}
    {calls : List (RowRange × Except (Failure Error) (List Window))}
    {c : RowRange × Except (Failure Error) (List Window)} :
  KnowsSchema m (calls ++ [c]) ↔ KnowsSchema m calls ∨ (c.1.limit = 0 ∧ c.2.isOk = true)
  := by
  simp only [KnowsSchema, List.mem_append, List.mem_singleton, or_and_right, exists_or,
    exists_eq_left, or_assoc]

theorem exists_opened_of_isOpen (h : r.isOpen = true) :
  ∃ t, r.state = .opened t
  := by
  rw [isOpen] at h
  cases hr : r.state with
  | opened t => exact ⟨t, rfl⟩
  | unopened =>
    rw [hr] at h
    cases h
  | closed =>
    rw [hr] at h
    cases h

section Answers

variable [Ipc.Decoder]

theorem answerEmpty_of_known (h : r.knownSchema? = some schema) :
  (answerEmpty r : Action (τ × σ) (Failure Error) Answer)
    = pure ⟨[.empty schema], emptyWork, r.footerSchema?⟩
  := by
  rw [knownSchema?] at h
  rw [answerEmpty]
  cases hm : r.metadata.schema? with
  | some known =>
    rw [hm] at h
    cases h
    rfl
  | none =>
    rw [hm, Option.none_or] at h
    rw [h]
    rfl

theorem answerEmpty_of_unknown (h : r.knownSchema? = none) :
  (answerEmpty r : Action (τ × σ) (Failure Error) Answer)
    = footerSchema r.path none >>= fun schema => pure ⟨[.empty schema], emptyWork, some schema⟩
  := by
  obtain ⟨hm, hf⟩ := Option.or_eq_none_iff.mp h
  rw [answerEmpty, hm, hf]
  rfl

/-- Without rows no batch is looked at. -/
theorem readOpened_of_limit_zero (hl : range.limit = 0) :
  (readOpened r range : Action (τ × σ) (Failure Error) Answer)
    = answerEmpty r >>= fun answer => note (answer.event r range) >>= fun _ => pure answer
  := by
  obtain ⟨hx, he⟩ := RowPlan.ofRange_of_limit_zero (f := r.metadata.footer) hl
  rw [readOpened]
  simp only [hx, he]
  rfl

theorem footerSchema?_of_rows {x y : τ × σ} {answer : Answer}
    (hc : checkRange r.metadata.recordCount range = .ok ()) (hl : range.limit ≠ 0)
    (h : readOpened r range x = (.ok answer, y)) :
  answer.footerSchema? = r.footerSchema?
  := by
  obtain ⟨ws, x₁, x₂, h1, h2, h3⟩ := readOpened_eq_ok h
  have hn : ws ≠ [] := fun hw =>
    hl (limit_eq_zero_of_windows hc h2 (length_of_readSelections h1) hw)
  exact (answerWindows_eq_ok hn h3).2

theorem readOpened_eq_ok_of_limit_zero {x y : τ × σ} {answer : Answer} (hl : range.limit = 0)
    (h : readOpened r range x = (.ok answer, y)) :
  ∃ schema, answer.windows = [.empty schema]
    ∧ r.metadata.schema?.or answer.footerSchema? = some schema
    ∧ ∀ known, r.knownSchema? = some known → known = schema
  := by
  rw [readOpened_of_limit_zero hl] at h
  obtain ⟨answer', x₁, h1, h2⟩ := Action.bind_eq_ok_iff.mp h
  obtain ⟨_, x₂, -, h3⟩ := Action.bind_eq_ok_iff.mp h2
  cases h3
  cases hk : r.knownSchema? with
  | some known =>
    rw [answerEmpty_of_known hk] at h1
    cases h1
    exact ⟨known, rfl, hk, fun _ h => (Option.some.inj h).symm⟩
  | none =>
    rw [answerEmpty_of_unknown hk] at h1
    obtain ⟨schema, x₃, -, h4⟩ := Action.bind_eq_ok_iff.mp h1
    cases h4
    use schema, rfl
    rw [(Option.or_eq_none_iff.mp hk).1]
    exact ⟨rfl, nofun⟩

/-- What a read leaves known: it has failed or was to give rows, and the reader knows what it
knew; or it has given no rows, and the reader knows the schema that it has given, which is the one
that it knew if it knew any. -/
inductive Learns (range : RowRange) (r : Reader τ) :
    Except (Failure Error) (List Window) → Reader τ → Prop where
  | failed {e : Failure Error} {r' : Reader τ} (hk : r'.knownSchema? = r.knownSchema?) :
    Learns range r (.error e) r'
  | rows {ws : List Window} {r' : Reader τ} (hl : range.limit ≠ 0)
      (hk : r'.knownSchema? = r.knownSchema?) :
    Learns range r (.ok ws) r'
  | empty {schema : Schema} {r' : Reader τ} (hl : range.limit = 0)
      (hk : r'.knownSchema? = some schema)
      (hs : ∀ known, r.knownSchema? = some known → known = schema) :
    Learns range r (.ok [.empty schema]) r'

theorem learns_read (range : RowRange) (r : Reader τ) (s : σ) :
  Learns range r (read range (r, s)).1 (read range (r, s)).2.1
  := by
  have hs := read_step range r s
  generalize read range (r, s) = a at hs
  cases hs with
  | refused _ => exact .failed rfl
  | unopened _ _ => exact .failed rfl
  | failed _ _ _ => exact .failed rfl
  | @answered _ _ _ _ answer hc _ ha =>
    by_cases hl : range.limit = 0
    · obtain ⟨schema, hw, hk, hs⟩ := readOpened_eq_ok_of_limit_zero hl ha
      rw [hw]
      exact .empty hl hk hs
    · apply Learns.rows hl
      rw [knownSchema?, footerSchema?_of_rows hc hl ha]
      rfl

/-- A read without rows of an open reader that knows the schema gives it, and does nothing else
but report that. -/
theorem read_of_known {t : τ} (hc : checkRange r.metadata.recordCount range = .ok ())
    (ht : r.state = .opened t) (hl : range.limit = 0) (hk : r.knownSchema? = some schema) :
  read range (r, s)
    = (.ok [.empty schema], ({ r with stats := r.stats.merge emptyWork },
        report (.rangeRead r.path range.start range.limit 1 0 0) s))
  := by
  have ha : readOpened r range (t, s) = (.ok ⟨[.empty schema], emptyWork, r.footerSchema?⟩,
      (t, report (.rangeRead r.path range.start range.limit 1 0 0) s)) := by
    rw [readOpened_of_limit_zero hl, answerEmpty_of_known hk]
    rfl
  rw [read]
  simp only [hc, ensureOpen_of_opened ht, ha]
  rw [← ht]

/-! ### What the history tells -/

section History

variable {base : Path} {m : FileMetadata} {config : ReaderConfig}
  {calls : List (RowRange × Except (Failure Error) (List Window))}

theorem knownSchema?_ne_none_iff (h : History σ base m config r calls) :
  r.knownSchema? ≠ none ↔ KnowsSchema m calls
  := by
  induction h with
  | start => simp [knownSchema?, KnowsSchema, new]
  | @read r calls _ range s ih =>
    have hr := learns_read range r s
    rw [knowsSchema_append_iff, ← ih]
    generalize (read range (r, s)).1 = a at hr ⊢
    generalize (read range (r, s)).2.1 = r' at hr ⊢
    cases hr with
    | failed hk => simp [hk, Except.isOk, Except.toBool]
    | rows hl hk => simp [hk, hl]
    | empty hl hk _ => simp [hk, hl, Except.isOk, Except.toBool]
  | @close r _ _ s ih =>
    rw [close_fst]
    exact ih

/-- What reads without rows have given so far is the schema that is known. -/
theorem windows_of_history (h : History σ base m config r calls) (range : RowRange)
    (ws : List Window) (hc : (range, .ok ws) ∈ calls) (hl : range.limit = 0) :
  ∃ schema, r.knownSchema? = some schema ∧ ws = [.empty schema]
  := by
  induction h with
  | start => cases hc
  | @read r calls _ last s ih =>
    have hr := learns_read last r s
    rcases List.mem_append.mp hc with hc | hc
    · obtain ⟨schema, hk, rfl⟩ := ih hc
      use schema
      generalize (read last (r, s)).1 = a at hr
      generalize (read last (r, s)).2.1 = r' at hr
      cases hr with
      | failed hk' => exact ⟨hk'.trans hk, rfl⟩
      | rows _ hk' => exact ⟨hk'.trans hk, rfl⟩
      | empty _ hk' hs => exact ⟨hs schema hk ▸ hk', rfl⟩
    · obtain ⟨rfl, ha⟩ := Prod.mk.inj (List.mem_singleton.mp hc)
      rw [← ha] at hr
      generalize (read range (r, s)).2.1 = r' at hr
      cases hr with
      | rows hl' _ => exact (hl' hl).elim
      | @empty schema _ _ hk _ => exact ⟨schema, hk, rfl⟩
  | @close r _ _ s ih =>
    rw [close_fst]
    exact ih hc

theorem path_of_history (h : History σ base m config r calls) :
  r.path = Path.join base m.path ∧ r.config = config
  := by
  induction h with
  | start => exact ⟨rfl, rfl⟩
  | @read r _ _ range s ih =>
    obtain ⟨hp, -, hc⟩ := read_fields range r s
    rwa [hp, hc]
  | @close r _ _ s ih => rwa [close_fst]

end History

end Answers

/-! ### Calls on files -/

section Calls

open Traced

variable {path : Path} {config : ReaderConfig} {s : Traced σ}

/-- The calls on files that the check of an open file makes. -/
def checkingCalls (path : Path) (config : ReaderConfig) : List StorageCall :=
  if config.validateFraming then [.fileSize path] else []

theorem adds_onSecond_fileSize :
  Action.Moves (AddsHolding [.fileSize path])
    (Framing.onFile path (.onSecond (fileSize path)) : Action (τ × Traced σ) (Failure Error) UInt64)
  := by
  apply Action.Moves.mapError
  intro x
  apply adds_fileSize path x.2

theorem adds_checkOpened :
  Action.Moves (AddsHolding (checkingCalls path config))
    (checkOpened path config : Action (τ × Traced σ) (Failure Error) Unit)
  := by
  rw [checkOpened, checkingCalls]
  split
  · apply adds_onSecond_fileSize.before (S := AddsHolding [])
    intro size
    apply (Framing.moves_validate streamFrame path size).bind
    intro _
    apply Action.Moves.pure
  · exact fun _ => adds_of_calls_eq rfl

/-- In a sound state the file is opened first, and then asked for its length if its framing is to
be checked. -/
theorem calls_openStream {V : View σ τ} {c : Bytes} (hs : V.Sound s.inner)
    (hf : V.file? path s.inner = some c) :
  ∃ new, (openStream path config s).2.calls = s.calls ++ .openFile path :: new
    ∧ new.filter StorageCall.isOnFiles = checkingCalls path config
  := by
  have hr := V.kept_report (.opening path config.validateFraming) s.inner
  rw [openStream]
  rw [Action.bind_apply_ok (Action.change_apply _ s)]
  obtain ⟨t, ht⟩ := V.openFile_sound (hr.sound hs) ((hr.file path).trans hf)
  have ho : Framing.onFile path (openFile path)
      (report (.opening path config.validateFraming) s)
      = (.ok t, (openFile path (report (.opening path config.validateFraming) s)).2) :=
    Action.mapError_eq_ok_iff.mpr (Prod.ext ht rfl)
  rw [Action.bind_apply_ok ho]
  have hm : Action.Moves (AddsHolding (checkingCalls path config))
      (checkOpened path config : Action (τ × Traced σ) (Failure Error) Unit) := adds_checkOpened
  obtain ⟨new, hc, hn⟩ := adds_keeping (t := t) hm
    (openFile path (report (.opening path config.validateFraming) s)).2
  use new, hc.trans (List.append_assoc _ _ _), hn

variable [Ipc.Decoder]

theorem adds_footerSchema :
  Action.Moves (AddsHolding [.fileSize path])
    (footerSchema path none : Action (τ × Traced σ) (Failure Error) Schema)
  := by
  apply adds_onSecond_fileSize.before (S := AddsHolding [])
  intro size
  apply (Framing.moves_readFooter streamFrame path size).bind
  rintro ⟨schema, footer⟩
  apply (streamFrame.moves_note _).bind
  intro _
  apply Action.Moves.pure

/-- An open reader that has been asked for rows calls no files. -/
theorem adds_readOpened_of_rows (hc : checkRange r.metadata.recordCount range = .ok ())
    (hl : range.limit ≠ 0) :
  Action.Moves (AddsHolding []) (readOpened r range : Action (τ × Traced σ) (Failure Error) Answer)
  := by
  have hm := moves_readSelections (σ := Traced σ) streamFrame r.path r.config
    (RowPlan.ofRange r.metadata.footer range).selections
  apply hm.bind_of (S := AddsHolding []) (fun _ _ _ => length_of_readSelections)
  intro ws hn
  refine Action.Moves.bind_of (S := AddsHolding [])
    (P := fun _ => (RowPlan.ofRange r.metadata.footer range).ending = .complete)
    (Action.Moves.ofExcept _) ?_ ?_
  · intro x _ y h
    exact checkEnd_eq_ok_iff.mp (Prod.mk.inj h).1
  intro _ he
  rw [answerWindows, if_neg fun hw => hl (limit_eq_zero_of_windows hc he hn hw)]
  refine Action.Moves.bind (Action.Moves.pure _) ?_
  intro answer
  apply Action.Moves.bind (streamFrame.moves_note _)
  intro _
  exact Action.Moves.pure answer

/-- An open reader looks for a schema that it does not know. -/
theorem adds_readOpened_of_unknown (hl : range.limit = 0) (hk : r.knownSchema? = none) :
  Action.Moves (AddsHolding [.fileSize r.path])
    (readOpened r range : Action (τ × Traced σ) (Failure Error) Answer)
  := by
  rw [readOpened_of_limit_zero hl, answerEmpty_of_unknown hk]
  have hf : Action.Moves (AddsHolding [.fileSize r.path])
      (footerSchema r.path none >>= fun schema => pure ⟨[.empty schema], emptyWork, some schema⟩ :
        Action (τ × Traced σ) (Failure Error) Answer) :=
    adds_footerSchema.before (S := AddsHolding []) fun schema => Action.Moves.pure _
  apply hf.before (S := AddsHolding [])
  intro answer
  apply Action.Moves.bind (streamFrame.moves_note _)
  intro _
  exact Action.Moves.pure answer

/-- Of the calls of an open reader's read those are on files that are made for its answer. -/
theorem adds_read {t : τ} {files : List StorageCall}
    (hc : checkRange r.metadata.recordCount range = .ok ()) (ht : r.state = .opened t)
    (h : Action.Moves (AddsHolding files)
      (readOpened r range : Action (τ × Traced σ) (Failure Error) Answer)) :
  Adds files s (read range (r, s)).2.2
  := by
  have h := h (t, s)
  rw [read]
  simp only [hc, ensureOpen_of_opened ht]
  generalize readOpened r range (t, s) = a at h
  obtain ⟨e | answer, t', s'⟩ := a <;> exact h

/-- A read changes nothing that can be seen of the storage inside. -/
theorem kept_inner (V : View σ τ) (range : RowRange) (r : Reader τ) (s : Traced σ) :
  V.Kept s.inner (read range (r, s)).2.2.inner
  := by
  obtain ⟨hs, hf, hc⟩ := kept_read (Traced.wrapping V).view range r s
  exact ⟨hs, hf, hc⟩

/-! ### Reads by what has been read before -/

/-- What a read of an open reader with the given history asks of its storage. -/
structure OpenCalls (m : FileMetadata)
    (calls : List (RowRange × Except (Failure Error) (List Window))) (r : Reader τ)
    (range : RowRange) (s : Traced σ) : Prop where
  /-- A read of rows calls no files. -/
  rows : range.limit ≠ 0 → Adds [] s (read range (r, s)).2.2
  /-- A read without rows asks for the length of the file, once, as long as the schema is not
  known. -/
  asks : range.limit = 0 → ¬ KnowsSchema m calls →
    Adds [.fileSize r.path] s (read range (r, s)).2.2
  /-- Then it gives the schema that all such reads have given, without any call, and leaves the
  stream alone. -/
  answers : range.limit = 0 → KnowsSchema m calls → ∃ schema,
    read range (r, s) = (.ok [.empty schema], ({ r with stats := r.stats.merge emptyWork },
      report (.rangeRead r.path range.start range.limit 1 0 0) s))
    ∧ (read range (r, s)).2.2.calls = s.calls
    ∧ ∀ (range' : RowRange) (ws : List Window), (range', .ok ws) ∈ calls → range'.limit = 0 →
      ws = [.empty schema]
  /-- A read that fails leaves the reader with what it knew. -/
  failed : ∀ e, (read range (r, s)).1 = .error e →
    ∃ t, (read range (r, s)).2.1 = { r with state := .opened t }

/-- What a read of a reader with the given history asks of its storage. -/
structure CallsFiles (base : Path) (m : FileMetadata) (config : ReaderConfig)
    (calls : List (RowRange × Except (Failure Error) (List Window))) (r : Reader τ)
    (range : RowRange) (s : Traced σ) : Prop where
  /-- A range that the file does not have is refused without a call. -/
  refused : ∀ e, checkRange m.recordCount range = .error e →
    read range (r, s) = (.error e, (r, s))
  /-- The stream of a reader that has not been opened is asked for first, once; then the length of
  the file, once, if the framing is to be checked. -/
  opens : r.state = .unopened → ∃ new,
    (ensureOpen r s).2.calls = s.calls ++ .openFile (Path.join base m.path) :: new
    ∧ new.filter StorageCall.isOnFiles = checkingCalls (Path.join base m.path) config
  /-- A read is over if that fails. -/
  unopened : checkRange m.recordCount range = .ok () → r.state = .unopened →
    ∀ e s', ensureOpen r s = (.error e, s') → read range (r, s) = (.error e, (r, s'))
  /-- If it succeeds, the read goes on as one of an open reader. -/
  goesOn : checkRange m.recordCount range = .ok () → r.state = .unopened →
    ∀ t s', ensureOpen r s = (.ok t, s') →
      read range (r, s) = read range ({ r with state := .opened t }, s')
      ∧ OpenCalls m calls { r with state := .opened t } range s'
  /-- An open reader is not opened again. -/
  opened : checkRange m.recordCount range = .ok () → ∀ t, r.state = .opened t →
    OpenCalls m calls r range s

variable {base : Path} {m : FileMetadata}
  {calls : List (RowRange × Except (Failure Error) (List Window))}

theorem openCalls_of_opened {t : τ} (hc : checkRange r.metadata.recordCount range = .ok ())
    (ht : r.state = .opened t) (hk : r.knownSchema? ≠ none ↔ KnowsSchema m calls)
    (hw : ∀ (range' : RowRange) (ws : List Window), (range', .ok ws) ∈ calls → range'.limit = 0 →
      ∃ schema, r.knownSchema? = some schema ∧ ws = [.empty schema]) :
  OpenCalls m calls r range s
  where
  rows hl := adds_read hc ht (adds_readOpened_of_rows hc hl)
  asks hl hn := by
    apply adds_read hc ht (adds_readOpened_of_unknown hl _)
    exact Decidable.not_not.mp (mt hk.mp hn)
  answers hl hm := by
    obtain ⟨schema, hs⟩ := Option.ne_none_iff_exists'.mp (hk.mpr hm)
    have hr := read_of_known (s := s) hc ht hl hs
    use schema, hr
    rw [hr]
    use rfl
    intro range' ws hmem hl'
    obtain ⟨schema', hs', rfl⟩ := hw range' ws hmem hl'
    rw [hs] at hs'
    cases hs'
    rfl
  failed e he := by
    have hs := read_step range r s
    generalize read range (r, s) = a at hs he
    cases hs with
    | refused hc' =>
      rw [hc] at hc'
      cases hc'
    | unopened _ ho =>
      rw [ensureOpen_of_opened ht] at ho
      cases ho
    | @failed _ t' _ _ _ _ _ _ => exact ⟨t', rfl⟩
    | answered _ _ _ => cases he

/-- While nothing is wrong with the file, the state and the history of a reader tell which calls a
read makes. -/
theorem callsFiles_of_history {V : View σ τ} {c : Bytes}
    (h : History (Traced σ) base m config r calls) (hs : V.Sound s.inner)
    (hf : V.file? (Path.join base m.path) s.inner = some c) (range : RowRange) :
  CallsFiles base m config calls r range s
  where
  refused e he := by
    rw [← metadata_of_history h] at he
    rw [read]
    simp only [he]
  opens hu := by
    obtain ⟨hp, hg⟩ := path_of_history h
    rw [ensureOpen_of_unopened hu, hp, hg]
    exact calls_openStream hs hf
  unopened hc hu e s' ho := by
    rw [← metadata_of_history h] at hc
    exact read_eq_of_ensureOpen hc ho
  goesOn hc hu t s' ho := by
    rw [← metadata_of_history h] at hc
    constructor
    · rw [read, read]
      simp only [hc, ho]
      rfl
    · have hk := knownSchema?_ne_none_iff h
      have hw := windows_of_history h
      exact openCalls_of_opened hc rfl hk hw
  opened hc t ht := by
    rw [← metadata_of_history h] at hc
    exact openCalls_of_opened hc ht (knownSchema?_ne_none_iff h) (windows_of_history h)

end Calls

end Reader

/-- After a read without rows over the sample file, which has no schema in its metadata, another
such read makes no call. -/
theorem Reader.callsFiles_of_history_numbers :
  ∃ r calls s, History (Traced MemoryStore) "" Sample.numberMetadata ⟨true, true⟩ r calls
    ∧ KnowsSchema Sample.numberMetadata calls
    ∧ MemoryStore.view.Sound s.inner
    ∧ MemoryStore.view.file? (Path.join "" Sample.numberMetadata.path) s.inner
      = some Sample.numberFile.toBytes.1
    ∧ CallsFiles "" Sample.numberMetadata ⟨true, true⟩ calls r ⟨2, 0⟩ s
    ∧ (read ⟨2, 0⟩ (r, s)).2.2.calls = s.calls
  := by
  have ho : Over (Traced.wrapping MemoryStore.view).view Sample.numberFile.toBytes.1
      Sample.numberReader (Traced.start Sample.numberStore) :=
    ⟨Sample.sound_numberStore, Sample.holds_numberReader, nofun⟩
  have hr := read_of_over ho fun (_ : (⟨1, 0⟩ : RowRange).limit = 0) _ _ =>
    Sample.holds_numberReader
  have hok : (read ⟨1, 0⟩ (Sample.numberReader, Traced.start Sample.numberStore)).1.isOk
      = true := by
    rw [hr]
    decide +kernel
  obtain ⟨ws, hws⟩ := exists_of_isOk hok
  have hh : History (Traced MemoryStore) "" Sample.numberMetadata ⟨true, true⟩ _ _ :=
    History.start.read ⟨1, 0⟩ (Traced.start Sample.numberStore)
  rw [← Sample.numberReader, hws] at hh
  have hknows : KnowsSchema Sample.numberMetadata ([] ++ [(⟨1, 0⟩, .ok ws)]) :=
    knowsSchema_append_iff.mpr (.inr ⟨rfl, rfl⟩)
  have hk := kept_inner MemoryStore.view ⟨1, 0⟩ Sample.numberReader
    (Traced.start Sample.numberStore)
  have hs := hk.sound Sample.sound_numberStore
  have hf := (hk.file (Path.join "" Sample.numberMetadata.path)).trans Sample.holds_numberReader
  have h := callsFiles_of_history hh hs hf ⟨2, 0⟩
  obtain ⟨t, ht⟩ := exists_opened_of_isOpen (isOpen_of_read hws)
  obtain ⟨schema, -, hcalls, -⟩ := (h.opened (by decide +kernel) t ht).answers rfl hknows
  exact ⟨_, _, _, hh, hknows, hs, hf, h, hcalls⟩

end BatchFile
