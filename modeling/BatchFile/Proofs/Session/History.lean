import BatchFile.Proofs.Reader.Correct
import BatchFile.Proofs.Reader.Remembers
import BatchFile.Proofs.Session

/-!
# Reads do not depend on the past

Once the stream of a reader has been opened on some contents, every read gives what it would
give if the reader were new and the file had these contents, whatever the session and the
files go through in between; only closing the reader puts an end to it.  What carries over
from step to step is that the reader continues over the contents (`Reader.Continues`).
-/

namespace BatchFile

section Readers

variable {σ τ : Type} [Storage σ τ] [Ipc.Decoder] {V : Storage.View σ τ}

variable {base : Path} {m : FileMetadata} {config : ReaderConfig} {c : Bytes}

/-! ### Readers that go on -/

/-- A reader made with the given arguments continues over contents: its stream is open and
over them, and if the file is to be unchanged, then it is, and what the reader remembers of
it is right. -/
structure Reader.Continues (V : Storage.View σ τ) (base : Path) (m : FileMetadata)
    (config : ReaderConfig) (c : Bytes) (unchanged : Prop) (r : Reader τ) (s : σ) : Prop where
  path_eq : r.path = Path.join base m.path
  metadata_eq : r.metadata = m
  config_eq : r.config = config
  isOpen_eq : r.isOpen = true
  over_contents : r.Over V c s
  file_eq : unchanged → V.file? (Path.join base m.path) s = some c
  remembers : unchanged → r.Remembers c

namespace Reader

variable {unchanged : Prop} {r : Reader τ} {s s' : σ}

/-- A reader goes on while nothing changes that can be seen. -/
theorem Continues.of_kept (h : Continues V base m config c unchanged r s)
    (hk : V.Kept s s') :
  Continues V base m config c unchanged r s'
  := ⟨h.path_eq, h.metadata_eq, h.config_eq, h.isOpen_eq, h.over_contents.of_kept hk,
      fun hu => (hk.file _).trans (h.file_eq hu), h.remembers⟩

/-- A reader goes on when the storage is changed from outside, if streams are lasting. -/
theorem Continues.of_change (h : Continues V base m config c unchanged r s)
    (hl : V.Lasting) (hs : V.Sound s')
    (hf : unchanged → V.file? (Path.join base m.path) s' = some c) :
  Continues V base m config c unchanged r s'
  := by
  have hh := h.over_contents.holds
  refine ⟨h.path_eq, h.metadata_eq, h.config_eq, h.isOpen_eq, ⟨hs, ?_, h.over_contents.checked⟩, hf,
    h.remembers⟩
  have ho := h.isOpen_eq
  rw [isOpen] at ho
  rw [Holds] at hh ⊢
  cases hr : r.state with
  | opened t =>
    rw [hr] at hh
    exact (hl t s s').trans hh
  | unopened =>
    rw [hr] at ho
    cases ho
  | closed =>
    rw [hr] at ho
    cases ho

/-- A new reader that a read has opened continues over the contents of the file. -/
theorem continues_of_isOpen (range : RowRange) (hs : V.Sound s)
    (hf : V.file? (Path.join base m.path) s = some c)
    (ho : (read range (Reader.new base m config, s)).2.1.isOpen = true) :
  Continues V base m config c unchanged (read range (Reader.new base m config, s)).2.1
    (read range (Reader.new base m config, s)).2.2
  := by
  have hn : Over V c (Reader.new base m config : Reader τ) s := ⟨hs, hf, nofun⟩
  obtain ⟨hp, hm, hc⟩ := read_fields range (Reader.new base m config) s
  have hk := kept_read V range (Reader.new base m config) s
  exact ⟨hp, hm, hc, ho, over_read range hn, fun _ => (hk.file _).trans hf,
    fun _ => remembers_read range hn hf nofun⟩

/-- A reader goes on when it reads, whatever the outcome. -/
theorem Continues.read (h : Continues V base m config c unchanged r s) (range : RowRange) :
  Continues V base m config c unchanged (read range (r, s)).2.1 (read range (r, s)).2.2
  := by
  obtain ⟨hp, hm, hc⟩ := read_fields range r s
  have hk := kept_read V range r s
  refine ⟨hp.trans h.path_eq, hm.trans h.metadata_eq, hc.trans h.config_eq,
    isOpen_read range h.isOpen_eq, over_read range h.over_contents,
    fun hu => (hk.file _).trans (h.file_eq hu), fun hu => ?_⟩
  apply remembers_read range h.over_contents _ (h.remembers hu)
  rw [h.path_eq]
  apply h.file_eq hu

/-- A reader that continues over contents reads like a new one over a file that has them. -/
theorem Continues.read_eq (h : Continues V base m config c unchanged r s) {range : RowRange}
    {s₀ : σ} (hs : V.Sound s₀) (hf : V.file? (Path.join base m.path) s₀ = some c)
    (hq : range.limit ≠ 0 ∨ m.schema?.isSome = true ∨ unchanged) :
  (Reader.read range (r, s)).1 = (Reader.read range (Reader.new base m config, s₀)).1
  := by
  have hn : Over V c (Reader.new base m config : Reader τ) s₀ := ⟨hs, hf, nofun⟩
  have hr : range.limit = 0 → r.metadata.schema? = none →
      V.file? r.path s = some c ∧ Remembers c r := by
    intro hl hm
    rcases hq with hq | hq | hq
    · exact (hq hl).elim
    · rw [← h.metadata_eq, hm] at hq
      cases hq
    · rw [h.path_eq]
      exact ⟨h.file_eq hq, h.remembers hq⟩
  rw [read_of_remembers h.over_contents hr, read_of_remembers hn fun _ _ => ⟨hf, nofun⟩, h.path_eq,
    h.metadata_eq, h.config_eq]
  rfl

end Reader

/-! ### Sessions -/

namespace Session

/-- The sessions that can come about after a new reader under a name has opened its stream on
contents: that reader is used in any way, but neither closed, dropped nor made again, the rest
of the session does what it likes, and in between the storage may be changed from outside to
any sound state that is allowed. -/
inductive After (V : Storage.View σ τ) (name : String) (base : Path) (m : FileMetadata)
    (config : ReaderConfig) (c : Bytes) (Allowed : σ → Prop) : Session σ τ → Prop where
  | opened {s : Session σ τ} {step : Step} (hr : s.reader? name = some (.new base m config))
      (hs : V.Sound s.storage) (hf : V.file? (Path.join base m.path) s.storage = some c)
      (hn : step.Spares name)
      (ho : ∃ r, (s.perform step).2.reader? name = some r ∧ r.isOpen = true) :
    After V name base m config c Allowed (s.perform step).2
  | step {s : Session σ τ} (h : After V name base m config c Allowed s) (step : Step)
      (hn : step.Spares name) :
    After V name base m config c Allowed (s.perform step).2
  | change {s : Session σ τ} (h : After V name base m config c Allowed s) (storage : σ)
      (hs : V.Sound storage) (ha : Allowed storage) :
    After V name base m config c Allowed { s with storage := storage }

variable {name : String} {Allowed : σ → Prop} {s : Session σ τ}

/-- What holds all along: there is a reader under the name, and it continues. -/
theorem exists_continues (hl : V.Lasting) (h : After V name base m config c Allowed s) :
  ∃ r, s.reader? name = some r
    ∧ r.Continues V base m config c
      (∀ storage, Allowed storage → V.file? (Path.join base m.path) storage = some c) s.storage
  := by
  induction h with
  | @opened s step hr hs hf hn ho =>
    obtain ⟨r', hr', ho⟩ := ho
    cases touched_perform V hn with
    | read r range hq h =>
      obtain rfl := Option.some.inj (hr.symm.trans hq)
      rw [h, reader?_replace] at hr'
      obtain rfl := Option.some.inj hr'
      rw [h]
      exact ⟨_, reader?_replace s name _, Reader.continues_of_isOpen range hs hf ho⟩
    | other hq _ =>
      rw [hr', hr] at hq
      obtain rfl := Option.some.inj hq
      cases ho
  | @step s _ step hn ih =>
    obtain ⟨r, hr, hc⟩ := ih
    cases touched_perform V hn with
    | read r' range hq h =>
      obtain rfl := Option.some.inj (hr.symm.trans hq)
      rw [h]
      exact ⟨_, reader?_replace s name _, hc.read range⟩
    | other hq hk =>
      use r, hq.trans hr
      apply hc.of_kept hk
  | change _ storage hs ha ih =>
    obtain ⟨r, hr, hc⟩ := ih
    use r, hr
    apply hc.of_change hl hs fun hu => hu storage ha

/-- Whatever has happened since the stream was opened, a read gives what a new reader would
give over a file that has the contents of the opening; for a read without rows the metadata
must have a schema, or the file must have stayed as it was.  Once the reader is closed, there
is nothing to read. -/
theorem read_after (hl : V.Lasting) (h : After V name base m config c Allowed s) :
  (∃ r, s.reader? name = some r ∧ ∀ (range : RowRange) (s₀ : σ), V.Sound s₀ →
    V.file? (Path.join base m.path) s₀ = some c →
    (range.limit ≠ 0 ∨ m.schema?.isSome = true
      ∨ ∀ storage, Allowed storage → V.file? (Path.join base m.path) storage = some c) →
    (Reader.read range (r, s.storage)).1 = (Reader.read range (.new base m config, s₀)).1)
  ∧ ∃ r, (s.perform (.close name)).2.reader? name = some r ∧ ∀ (range : RowRange) (s₁ : σ),
    Reader.checkRange m.recordCount range = .ok () →
    (Reader.read range (r, s₁)).1 = .error (.closed (Path.join base m.path))
  := by
  obtain ⟨r, hr, hc⟩ := exists_continues hl h
  constructor
  · use r, hr
    intro range s₀ hs hf hq
    apply hc.read_eq hs hf hq
  · use { r with state := .closed }, reader?_closeReader hr
    intro range s₁ hk
    rw [← hc.metadata_eq] at hk
    rw [← hc.path_eq]
    exact Reader.read_of_closed rfl hk

end Session

end Readers

namespace Session

/-- A session whose reader has read some rows of the sample file before all files were
removed. -/
def afterRemoval : Session MemoryStore MemoryStream :=
  { (((start Sample.numberStore).put "r" Sample.numberReader).perform (.read "r" ⟨1, 3⟩)).2 with
    storage := .empty }

theorem after_afterRemoval :
  After MemoryStore.view "r" "" Sample.numberMetadata ⟨true, true⟩ Sample.numberFile.toBytes.1
    (fun _ => True) afterRemoval
  := by
  obtain ⟨ws, hw⟩ := Sample.exists_read_new ⟨true, true⟩
  have hr : ((start Sample.numberStore).put "r" Sample.numberReader).reader? "r"
      = some Sample.numberReader := reader?_put _ "r" _
  have hs : Step.Spares "r" (.read "r" ⟨1, 3⟩) := trivial
  refine .change (.opened hr Sample.sound_numberStore Sample.holds_numberReader hs ?_) _
    MemoryStore.sound_empty trivial
  rw [perform_read hr]
  exact ⟨_, reader?_replace _ "r" _, Reader.isOpen_of_read hw⟩

/-- The reader of a file that has been removed reads all its rows. -/
theorem read_after_removal :
  ∃ r, afterRemoval.reader? "r" = some r
    ∧ (Reader.read ⟨0, 5⟩ (r, afterRemoval.storage)).1
      = (Reader.read ⟨0, 5⟩ (Sample.numberReader, Sample.numberStore)).1
  := by
  obtain ⟨r, hr, h⟩ := (read_after MemoryStore.lasting_view after_afterRemoval).1
  use r, hr
  apply h _ _ Sample.sound_numberStore Sample.holds_numberReader
  left
  decide

end Session

end BatchFile
