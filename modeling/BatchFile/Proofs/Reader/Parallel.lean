import BatchFile.Proofs.Reader.Correct
import BatchFile.Proofs.Reader.Lending
import BatchFile.Proofs.Reader.Sequence
import BatchFile.Proofs.RowRange
import BatchFile.Proofs.Session
import BatchFile.Proofs.Storage.Observed
import BatchFile.Proofs.Storage.Shared
import BatchFile.Reader.Ranges
import Mathlib.Algebra.Ring.Nat
import Mathlib.Logic.Relation

/-!
# Ranges that are read at the same time

The ranges that are to be read are the jobs of a pool.  Each of them is read by a reader of its
own, which is closed afterwards; which job goes on next is left open, and between the calls of one
reader the others may do whatever cannot be seen (`Shared`).  What holds of a pool at the start is
kept by every step (`Pool.Sane.read`, `Pool.Sane.close`) and so by every run: a job that has been
begun has come to what a new reader gives for its range, and the streams are in order.  Hence
whatever order the jobs are done in, the pool gives what new readers give for the ranges one by one
(`Pool.faithful_of_reaches`).
-/

namespace BatchFile

open Storage

/-! ### Streams of reads that succeed -/

section Lending

open Ledger

variable {σ τ : Type} [Storage σ τ] {l l' : Ledger (Observed σ)} {t : Numbered τ}

theorem Ledger.books_of_openFile {path : Path} (h : openFile path l = (.ok t, l')) :
  l'.books = l.books.lend
  := by
  simp only [openFile] at h
  generalize openFile path l.inner.inner = a at h
  obtain ⟨e | t₁, inner⟩ := a
  · cases h
  · cases h
    rfl

namespace Reader

theorem books_of_openStream {path : Path} {config : ReaderConfig}
    (h : openStream path config l = (.ok t, l')) :
  l'.books = l.books.lend
  := by
  obtain ⟨_, l₁, h1, h2⟩ := Action.bind_eq_ok_iff.mp h
  obtain ⟨t₁, l₂, h3, h4⟩ := Action.bind_eq_ok_iff.mp h2
  obtain ⟨-, rfl⟩ := Prod.mk.inj h1
  have hc := moves_checkOpened frame path config (t₁, l₂)
  rw [keeping_eq_ok h4] at hc
  rw [hc.1, books_of_openFile (Action.mapError_eq_ok_iff.mp h3), books_report]

/-- A new reader that reads has opened one stream. -/
theorem books_of_read [Ipc.Decoder] {r : Reader (Numbered τ)} {range : RowRange} {ws : List Window}
    (hn : r.state = .unopened) (h : (read range (r, l)).1 = .ok ws) :
  (read range (r, l)).2.2.books = l.books.lend
  := by
  have hs := read_step range r l
  generalize read range (r, l) = a at hs h
  cases hs with
  | refused _ => cases h
  | unopened _ _ => cases h
  | failed _ _ _ => cases h
  | answered _ ho hr =>
    rw [ensureOpen_of_unopened hn] at ho
    exact (frame_of_readOpened hr).1.trans (books_of_openStream ho)

end Reader

end Lending

/-! ### Pools -/

/-- How far the read of a range has come. -/
inductive Job (τ : Type) where
  | waiting
  /-- The range has been read, and the reader is not closed yet. -/
  | read (reader : Reader τ) (outcome : Except (Failure Error) (List Window))
  | done (outcome : Except (Failure Error) (List Window))

namespace Job

variable {τ : Type}

/-- What the read of the range has come to. -/
def outcome? : Job τ → Option (Except (Failure Error) (List Window))
  | .waiting => none
  | .read _ outcome => some outcome
  | .done outcome => some outcome

/-- The number of the stream that the reader of the range holds, if there is one. -/
def held : Job (Numbered τ) → List Nat
  | .read reader _ => reader.held
  | _ => []

/-- How many steps are left. -/
def left : Job τ → Nat
  | .waiting => 2
  | .read _ _ => 1
  | .done _ => 0

/-- Whether nothing is in progress. -/
def isIdle : Job τ → Bool
  | .read _ _ => false
  | _ => true

end Job

/-- A storage, and the ranges that are read over it. -/
structure Pool (σ τ : Type) where
  storage : σ
  jobs : List (RowRange × Job τ)

namespace Pool

/-! ### What pools give -/

section Results

variable {σ τ : Type} {p : Pool σ τ} {jobs : List (RowRange × Job τ)}

/-- Ranges that nothing has been done about yet. -/
def waiting (ranges : List RowRange) : List (RowRange × Job τ) :=
  ranges.map fun range => (range, .waiting)

/-- A failure speaks for jobs: if one of them has panicked, it is a panic. -/
def SpeaksFor (e : Failure Error) (jobs : List (RowRange × Job τ)) : Prop :=
  ∀ job ∈ jobs, ∀ p, job.2 = .done (.error (.panicked p)) → ∃ q, e = .panicked q

/-- What a pool gives: the windows of each range if all reads have succeeded, and the failure of any
read that has failed, when nothing is in progress, but that of one that has panicked if there is
one.  Ranges that are still waiting then are not read any more. -/
inductive Gives : List (RowRange × Job τ) → Except (Failure Error) (List (List Window)) → Prop where
  | windows {jobs : List (RowRange × Job τ)} {wss : List (List Window)}
      (h : List.Forall₂ (fun job ws => job.2 = .done (.ok ws)) jobs wss) :
    Gives jobs (.ok wss)
  | error {jobs : List (RowRange × Job τ)} {range : RowRange} {e : Failure Error}
      (h : (range, .done (.error e)) ∈ jobs) (hs : SpeaksFor e jobs)
      (hi : ∀ job ∈ jobs, job.2.isIdle = true) :
    Gives jobs (.error e)

/-- All ranges have been read, and the readers closed. -/
def Finished (jobs : List (RowRange × Job τ)) : Prop :=
  ∀ job ∈ jobs, ∃ outcome, job.2 = .done outcome

/-- How many steps are left. -/
def left (p : Pool σ τ) : Nat := (p.jobs.map fun job => job.2.left).sum

theorem Finished.cons {range : RowRange} {outcome : Except (Failure Error) (List Window)}
    (hf : Finished jobs) :
  Finished ((range, .done outcome) :: jobs)
  := List.forall_mem_cons.mpr ⟨⟨outcome, rfl⟩, hf⟩

theorem Finished.isIdle (hf : Finished jobs) :
  ∀ job ∈ jobs, job.2.isIdle = true
  := by
  intro job hj
  obtain ⟨outcome, ho⟩ := hf job hj
  rw [ho]
  rfl

theorem speaksFor_of_panicked (p : Panic) (jobs : List (RowRange × Job τ)) :
  SpeaksFor (.panicked p) jobs
  := fun _ _ _ _ => ⟨p, rfl⟩

theorem SpeaksFor.cons {e : Failure Error} {range : RowRange}
    {first : Except (Failure Error) (List Window)} (h : SpeaksFor e jobs)
    (hp : ∀ p, first ≠ .error (.panicked p)) :
  SpeaksFor e ((range, .done first) :: jobs)
  := by
  apply List.forall_mem_cons.mpr ⟨_, h⟩
  intro p hj
  cases hj
  exact (hp p rfl).elim

/-- Jobs that give no panic have not panicked. -/
theorem Gives.speaksFor {others : Except (Failure Error) (List (List Window))}
    (h : Gives jobs others) (hp : ∀ p, others ≠ .error (.panicked p)) (e : Failure Error) :
  SpeaksFor e jobs
  := by
  cases h with
  | windows h =>
    intro job hj p hd
    obtain ⟨ws, -, hw⟩ := exists_of_mem_left h hj
    rw [hw] at hd
    cases hd
  | error _ hs _ =>
    intro job hj p hd
    obtain ⟨q, rfl⟩ := hs job hj p hd
    exact (hp q rfl).elim

/-- What several ranges give depends on what the first one gives and on what the others do. -/
theorem Gives.cons {range : RowRange} {first : Except (Failure Error) (List Window)}
    {others : Except (Failure Error) (List (List Window))} (h : Gives jobs others)
    (hf : Finished jobs) :
  Gives ((range, .done first) :: jobs) (Reader.together first others)
  := by
  have hi : ∀ job ∈ (range, .done first) :: jobs, job.2.isIdle = true := hf.cons.isIdle
  cases first with
  | ok ws =>
    cases h with
    | windows h => exact .windows (.cons rfl h)
    | @error _ e hj hs _ =>
      have hj := List.mem_cons_of_mem (range, .done (.ok ws)) hj
      cases e <;> exact .error hj (hs.cons nofun) hi
  | error e =>
    cases e with
    | panicked p => exact .error List.mem_cons_self (speaksFor_of_panicked p _) hi
    | returned e =>
      rcases others with (e' | q) | rest
      · exact .error List.mem_cons_self ((h.speaksFor nofun _).cons nofun) hi
      · cases h with
        | error hj _ _ =>
          exact .error (List.mem_cons_of_mem _ hj) (speaksFor_of_panicked q _) hi
      · exact .error List.mem_cons_self ((h.speaksFor nofun _).cons nofun) hi

theorem exists_gives (hf : Finished jobs) :
  ∃ result, Gives jobs result
  := by
  induction jobs with
  | nil => exact ⟨_, .windows .nil⟩
  | cons job jobs ih =>
    obtain ⟨range, job⟩ := job
    obtain ⟨⟨outcome, rfl⟩, hr⟩ := List.forall_mem_cons.mp hf
    obtain ⟨others, ho⟩ := ih hr
    exact ⟨_, ho.cons hr⟩

end Results

/-! ### Runs -/

section Steps

variable {σ τ : Type} [Storage σ τ] [Ipc.Decoder] (base : Path) (m : FileMetadata)
  (config : ReaderConfig)

/-- Any range that is waiting may be read next, and any reader that has read may be closed. -/
inductive Step : Pool σ τ → Pool σ τ → Prop where
  | read (s : σ) (before after : List (RowRange × Job τ)) (range : RowRange) :
    Step ⟨s, before ++ (range, .waiting) :: after⟩
      ⟨(Reader.read range (Reader.new base m config, s)).2.2,
        before ++ (range, .read (Reader.read range (Reader.new base m config, s)).2.1
          (Reader.read range (Reader.new base m config, s)).1) :: after⟩
  | close (s : σ) (before after : List (RowRange × Job τ)) (range : RowRange) (r : Reader τ)
      (outcome : Except (Failure Error) (List Window)) :
    Step ⟨s, before ++ (range, .read r outcome) :: after⟩
      ⟨(r.close s).2, before ++ (range, .done outcome) :: after⟩

/-- Steps in any order. -/
def Reaches : Pool σ τ → Pool σ τ → Prop := Relation.ReflTransGen (Step base m config)

variable {base m config} {p p' : Pool σ τ}

theorem Step.left_lt (h : Step base m config p p') :
  p'.left < p.left
  := by
  cases h <;> simp [Pool.left, Job.left]

/-- As long as a pool is not finished, there is something to be done. -/
theorem exists_step (base : Path) (m : FileMetadata) (config : ReaderConfig)
    (h : ¬ Finished p.jobs) :
  ∃ p', Step base m config p p'
  := by
  obtain ⟨s, jobs⟩ := p
  simp only [Finished, not_forall] at h
  obtain ⟨⟨range, job⟩, hj, hn⟩ := h
  obtain ⟨before, after, rfl⟩ := List.append_of_mem hj
  cases job with
  | waiting => exact ⟨_, .read s before after range⟩
  | read r outcome => exact ⟨_, .close s before after range r outcome⟩
  | done outcome => exact (hn ⟨outcome, rfl⟩).elim

theorem exists_finished (base : Path) (m : FileMetadata) (config : ReaderConfig)
    (p : Pool σ τ) :
  ∃ p', Reaches base m config p p' ∧ Finished p'.jobs
  := by
  generalize hn : p.left = n
  induction n using Nat.strongRecOn generalizing p with
  | ind n ih =>
    by_cases h : Finished p.jobs
    · exact ⟨p, .refl, h⟩
    · obtain ⟨p₁, h₁⟩ := exists_step base m config h
      obtain ⟨p₂, h₂, hf⟩ := ih p₁.left (hn ▸ h₁.left_lt) p₁ rfl
      exact ⟨p₂, .head h₁ h₂, hf⟩

/-! ### One range after another -/

variable (base m config)

/-- Reading a range and closing its reader are two steps. -/
theorem reaches_readOnce (s : σ) (before after : List (RowRange × Job τ)) (range : RowRange) :
  Reaches base m config ⟨s, before ++ (range, .waiting) :: after⟩
    ⟨(Reader.readOnce base m config range s).2,
      before ++ (range, .done (Reader.readOnce base m config range s).1) :: after⟩
  := .head (.read s before after range) (.single (.close _ before after range _ _))

/-- Reading the ranges one after another is a run of the pool. -/
theorem reaches_readRanges (before : List (RowRange × Job τ)) (ranges : List RowRange) (s : σ) :
  ∃ jobs, Reaches base m config ⟨s, before ++ waiting ranges⟩
      ⟨(Reader.readRanges base m config ranges s).2, before ++ jobs⟩
    ∧ Finished jobs ∧ Gives jobs (Reader.readRanges base m config ranges s).1
  := by
  induction ranges generalizing before s with
  | nil =>
    rw [Reader.readRanges]
    have hf : Finished ([] : List (RowRange × Job τ)) := fun _ hj => (List.not_mem_nil hj).elim
    exact ⟨[], .refl, hf, .windows .nil⟩
  | cons range ranges ih =>
    rw [Reader.readRanges]
    beta_reduce
    have hr := reaches_readOnce base m config s before (waiting ranges) range
    generalize Reader.readOnce base m config range s = a at hr
    obtain ⟨first, s₁⟩ := a
    obtain ⟨jobs, hj, hf, hg⟩ := ih (before ++ [(range, .done first)]) s₁
    rw [List.append_assoc, List.append_assoc] at hj
    exact ⟨(range, .done first) :: jobs, .trans hr hj, hf.cons, hg.cons hf⟩

end Steps

/-! ### What all runs keep -/

section Runs

variable {σ τ : Type} [Storage σ τ] {W : View (Ledger (Observed σ)) (Numbered τ)}
  {base : Path} {m : FileMetadata} {config : ReaderConfig}
  {given : RowRange → Except (Failure Error) (List Window)} {ranges : List RowRange}
  {l : Ledger (Observed σ)} {p p' : Pool (Ledger (Observed σ)) (Numbered τ)}

/-- The numbers of the streams that the readers of some jobs hold. -/
def held (jobs : List (RowRange × Job (Numbered τ))) : List Nat :=
  jobs.flatMap fun job => job.2.held

theorem perm_held (before after : List (RowRange × Job (Numbered τ)))
    (job : RowRange × Job (Numbered τ)) :
  (held (before ++ job :: after)).Perm (job.2.held ++ held (before ++ after))
  := by
  simp only [held, List.flatMap_append, List.flatMap_cons]
  apply List.perm_append_comm_assoc

/-- How many jobs have been begun. -/
def begun (jobs : List (RowRange × Job τ)) : Nat := jobs.countP fun job => job.2.outcome?.isSome

/-- The pool is over the same files as at the start and has the same ranges, those that have been
read have come to what is given for them, and the streams are in order: they are held by readers
that are not closed yet, and if all ranges can be read, then one has been opened for each of those
that have been read. -/
structure Sane (W : View (Ledger (Observed σ)) (Numbered τ)) (l : Ledger (Observed σ))
    (ranges : List RowRange) (given : RowRange → Except (Failure Error) (List Window))
    (p : Pool (Ledger (Observed σ)) (Numbered τ)) : Prop where
  kept : W.Kept l p.storage
  ranges_eq : p.jobs.map Prod.fst = ranges
  outcome_eq : ∀ job ∈ p.jobs, ∀ outcome, job.2.outcome? = some outcome → outcome = given job.1
  balanced : p.storage.books.Balanced (held p.jobs)
  opens_eq : (∀ range ∈ ranges, ∃ ws, given range = .ok ws) →
    p.storage.books.opens = l.books.opens + begun p.jobs

theorem sane_start (hb : l.books.Balanced []) :
  Sane W l ranges given ⟨l, waiting ranges⟩
  where
  kept := Std.Refl.refl l
  ranges_eq := by simp [waiting, Function.comp_def]
  outcome_eq := by simp [waiting, Job.outcome?]
  balanced := by
    have hh : held (waiting ranges : List (RowRange × Job (Numbered τ))) = [] := by
      simp [held, waiting, Job.held]
    rw [hh]
    apply hb
  opens_eq _ := by simp [begun, waiting, Job.outcome?]

/-- Reading a range that is waiting keeps everything in order. -/
theorem Sane.read [Ipc.Decoder] {s : Ledger (Observed σ)}
    {before after : List (RowRange × Job (Numbered τ))} {range : RowRange}
    (hg : ∀ s, W.Kept l s → Reader.fresh base m config s range = given range)
    (h : Sane W l ranges given ⟨s, before ++ (range, .waiting) :: after⟩) :
  Sane W l ranges given
    ⟨(Reader.read range (Reader.new base m config, s)).2.2,
      before ++ (range, .read (Reader.read range (Reader.new base m config, s)).2.1
        (Reader.read range (Reader.new base m config, s)).1) :: after⟩
  where
  kept := Trans.trans h.kept (Reader.kept_read W range (Reader.new base m config) s)
  ranges_eq := by
    rw [← h.ranges_eq]
    simp
  outcome_eq := by
    have ho := h.outcome_eq
    simp only [List.forall_mem_append, List.forall_mem_cons] at ho ⊢
    obtain ⟨hb, -, ha⟩ := ho
    refine ⟨hb, ?_, ha⟩
    intro outcome ho
    rw [← Option.some.inj ho]
    apply hg s h.kept
  balanced := by
    have hs := h.balanced.of_perm (perm_held before after (range, .waiting)).symm
    have hr := Reader.balanced_read (r := Reader.new base m config) range hs
    apply hr.of_perm (perm_held before after _)
  opens_eq hk := by
    have ho := h.opens_eq hk
    obtain ⟨ws, hw⟩ := hk range (by simp [← h.ranges_eq])
    rw [Reader.books_of_read rfl ((hg s h.kept).trans hw)]
    show s.books.opens + 1 = _
    rw [ho]
    simp [begun, Job.outcome?]
    omega

/-- Closing a reader keeps everything in order. -/
theorem Sane.close {s : Ledger (Observed σ)} {before after : List (RowRange × Job (Numbered τ))}
    {range : RowRange} {r : Reader (Numbered τ)} {outcome : Except (Failure Error) (List Window)}
    (h : Sane W l ranges given ⟨s, before ++ (range, .read r outcome) :: after⟩) :
  Sane W l ranges given ⟨(r.close s).2, before ++ (range, .done outcome) :: after⟩
  where
  kept := Trans.trans h.kept (Session.kept_close W r s)
  ranges_eq := by
    rw [← h.ranges_eq]
    simp
  outcome_eq := by
    have ho := h.outcome_eq
    simp only [List.forall_mem_append, List.forall_mem_cons] at ho ⊢
    apply ho
  balanced := by
    have hs := h.balanced.of_perm (perm_held before after (range, .read r outcome)).symm
    have hr := Reader.balanced_close hs
    rw [Reader.held_close] at hr
    apply hr.of_perm (perm_held before after _)
  opens_eq hk := by
    have ho := h.opens_eq hk
    have hc : (r.close s).2.books.opens = s.books.opens := by
      rw [Reader.close]
      cases r.state <;> rfl
    rw [hc, ho]
    simp [begun, Job.outcome?]

theorem Sane.reaches [Ipc.Decoder]
    (hg : ∀ s, W.Kept l s → ∀ range, Reader.fresh base m config s range = given range)
    (h : Sane W l ranges given p) (hr : Reaches base m config p p') :
  Sane W l ranges given p'
  := by
  induction hr with
  | refl => apply h
  | tail _ hs ih =>
    cases hs with
    | read s before after range => apply ih.read fun s hk => hg s hk range
    | close s before after range r outcome => apply ih.close

/-! ### What pools give -/

/-- What a pool gives is what is given for its ranges one by one. -/
structure Faithful (given : RowRange → Except (Failure Error) (List Window))
    (ranges : List RowRange) (p : Pool (Ledger (Observed σ)) (Numbered τ))
    (result : Except (Failure Error) (List (List Window))) : Prop where
  /-- There are windows for all ranges exactly if every range can be read. -/
  isOk_iff : (∃ wss, result = .ok wss) ↔ ∀ range ∈ ranges, ∃ ws, given range = .ok ws
  /-- They are those of the ranges, in order. -/
  windows : ∀ wss, result = .ok wss →
    List.Forall₂ (fun range ws => given range = .ok ws) ranges wss
  /-- An error is that of one of the ranges. -/
  error : ∀ e, result = .error e → ∃ range ∈ ranges, given range = .error e
  /-- If all ranges have been read, one stream has been opened for each of them. -/
  opens_eq : ∀ wss, result = .ok wss → p.storage.books.opens = ranges.length
  /-- All streams have been given back, -/
  releases_eq : p.storage.books.releases = p.storage.books.opens
  /-- each of them once. -/
  returned : p.storage.books.returned.Perm (List.range p.storage.books.opens)

theorem given_of_done {jobs : List (RowRange × Job (Numbered τ))} {wss : List (List Window)}
    (h : List.Forall₂ (fun job ws => job.2 = .done (.ok ws)) jobs wss)
    (ho : ∀ job ∈ jobs, ∀ outcome, job.2.outcome? = some outcome → outcome = given job.1) :
  List.Forall₂ (fun range ws => given range = .ok ws) (jobs.map Prod.fst) wss
  := by
  rw [List.forall₂_map_left_iff]
  induction h with
  | nil => exact .nil
  | cons h _ ih =>
    rw [List.forall_mem_cons] at ho
    apply List.Forall₂.cons _ (ih ho.2)
    apply (ho.1 _ _).symm
    rw [h]
    rfl

theorem begun_of_done {jobs : List (RowRange × Job (Numbered τ))} {wss : List (List Window)}
    (h : List.Forall₂ (fun job ws => job.2 = .done (.ok ws)) jobs wss) :
  begun jobs = jobs.length
  := by
  induction h with
  | nil => rfl
  | cons h _ ih => simpa [begun, h, Job.outcome?] using ih

theorem Gives.isIdle {jobs : List (RowRange × Job τ)}
    {result : Except (Failure Error) (List (List Window))} (h : Gives jobs result) :
  ∀ job ∈ jobs, job.2.isIdle = true
  := by
  cases h with
  | windows h =>
    induction h with
    | nil => exact fun _ hj => (List.not_mem_nil hj).elim
    | cons h _ ih =>
      rw [List.forall_mem_cons, h]
      exact ⟨rfl, ih⟩
  | error _ _ hi => apply hi

theorem held_of_isIdle {jobs : List (RowRange × Job (Numbered τ))}
    (h : ∀ job ∈ jobs, job.2.isIdle = true) :
  held jobs = []
  := by
  rw [held, List.flatMap_eq_nil_iff]
  intro job hj
  have h := h job hj
  cases hc : job.2 with
  | read r outcome =>
    rw [hc] at h
    cases h
  | _ => rfl

theorem Sane.given_of_windows {wss : List (List Window)} (h : Sane W l ranges given p)
    (hr : Gives p.jobs (.ok wss)) :
  List.Forall₂ (fun range ws => given range = .ok ws) ranges wss
  := by
  cases hr with
  | windows hw =>
    rw [← h.ranges_eq]
    apply given_of_done hw h.outcome_eq

theorem Sane.given_of_error {e : Failure Error} (h : Sane W l ranges given p)
    (hr : Gives p.jobs (.error e)) :
  ∃ range ∈ ranges, given range = .error e
  := by
  cases hr with
  | error hj _ _ =>
    have hm := List.mem_map_of_mem (f := Prod.fst) hj
    rw [h.ranges_eq] at hm
    exact ⟨_, hm, (h.outcome_eq _ hj _ rfl).symm⟩

theorem Sane.isOk_iff {result : Except (Failure Error) (List (List Window))}
    (h : Sane W l ranges given p) (hr : Gives p.jobs result) :
  (∃ wss, result = .ok wss) ↔ ∀ range ∈ ranges, ∃ ws, given range = .ok ws
  := by
  constructor
  · rintro ⟨wss, rfl⟩ range hm
    obtain ⟨ws, -, hw⟩ := exists_of_mem_left (h.given_of_windows hr) hm
    exact ⟨ws, hw⟩
  · intro hk
    cases result with
    | ok wss => exact ⟨wss, rfl⟩
    | error e =>
      obtain ⟨range, hm, he⟩ := h.given_of_error hr
      obtain ⟨ws, hw⟩ := hk range hm
      rw [hw] at he
      cases he

theorem Sane.faithful {result : Except (Failure Error) (List (List Window))}
    (h : Sane W l ranges given p) (hl : l.books.opens = 0) (hr : Gives p.jobs result) :
  Faithful given ranges p result
  := by
  have hk := h.isOk_iff hr
  have hb := h.balanced
  rw [held_of_isIdle hr.isIdle] at hb
  refine ⟨hk, ?_, ?_, ?_, hb.opens_eq_add.symm, ?_⟩
  · rintro wss rfl
    apply h.given_of_windows hr
  · rintro e rfl
    apply h.given_of_error hr
  · rintro wss rfl
    rw [h.opens_eq (hk.mp ⟨wss, rfl⟩), hl, Nat.zero_add, ← h.ranges_eq, List.length_map]
    cases hr with
    | windows hw => apply begun_of_done hw
  · rw [hb.opens_eq]
    apply hb.perm

end Runs

/-! ### All rows in several ranges -/

section Split

variable {σ τ : Type} [Storage σ τ] {V : View σ τ} {base : Path} {m : FileMetadata}
  {config : ReaderConfig} {c : Bytes} {s : σ}

/-- The rows that some windows show. -/
def shownRows (ws : List Window) : List Row := ws.flatMap fun w => w.slice.rows

theorem shownRows_flatten {given : RowRange → Except (Failure Error) (List Window)}
    {rows : List Row} {ranges : List RowRange} {wss : List (List Window)}
    (h : List.Forall₂ (fun range ws => given range = .ok ws) ranges wss)
    (hs : ∀ range ∈ ranges, ∃ ws, given range = .ok ws ∧ Reader.Serves rows range ws) :
  shownRows wss.flatten = ranges.flatMap fun r => (rows.drop r.start.toNat).take r.limit.toNat
  := by
  induction h with
  | nil => rfl
  | cons h _ ih =>
    rw [List.forall_mem_cons, h] at hs
    obtain ⟨⟨ws, hw, hr⟩, hs⟩ := hs
    obtain rfl := Except.ok.inj hw
    rw [List.flatten_cons, shownRows, List.flatMap_append, List.flatMap_cons, ← ih hs, hr.rows_eq]
    rfl

variable [Ipc.Decoder]

/-- A new reader over a file that is consistent with its metadata finds the rows of every range
that the file has. -/
theorem fresh_of_consistent (hs : V.Sound s) (hf : V.file? (Path.join base m.path) s = some c)
    (hm : m.Consistent c) (hn : m.schema?.isSome = true)
    (hv : config.validateFraming = true → Framing.Valid c) {range : RowRange}
    (hc : Reader.checkRange m.recordCount range = .ok ()) :
  ∃ ws, Reader.fresh base m config s range = .ok ws ∧ Reader.Serves (m.allRows c) range ws
  := by
  obtain ⟨schema, hn⟩ := Option.isSome_iff_exists.mp hn
  have ho : Reader.Over V c (Reader.new base m config : Reader τ) s := ⟨hs, hf, nofun⟩
  apply Reader.serves_of_over ho (Reader.checkedIn_eq_ok_iff.mpr hv) hm hc
  · exact fun _ _ _ => hf
  · intro _
    use schema
    show Reader.schemaIn _ (m.schema?.or none) c = .ok schema
    rw [hn]
    rfl

/-- The rows of all ranges that the rows of a file are split into are the rows of the file. -/
theorem shownRows_split (hs : V.Sound s) (hf : V.file? (Path.join base m.path) s = some c)
    (hm : m.Consistent c) (hn : m.schema?.isSome = true)
    (hv : config.validateFraming = true → Framing.Valid c) {shards : UInt64}
    {ranges : List RowRange} (hr : RowRange.split m.recordCount shards = .ok ranges)
    {wss : List (List Window)}
    (h : List.Forall₂ (fun range ws => Reader.fresh base m config s range = .ok ws) ranges wss) :
  ∃ ws, Reader.fresh base m config s ⟨0, m.recordCount⟩ = .ok ws
    ∧ shownRows wss.flatten = shownRows ws
  := by
  obtain ⟨ws, hw, ha⟩ :=
    fresh_of_consistent hs hf hm hn hv (RowRange.checkRange_all m.recordCount)
  use ws, hw
  rw [shownRows_flatten h fun r hm' => fresh_of_consistent hs hf hm hn hv
    (RowRange.checkRange_of_mem_split hr hm'), RowRange.flatMap_split _ hr, shownRows, ha.rows_eq]
  rfl

/-! ### Whole runs -/

/-- Ranges that wait for being read over a storage that others use as well. -/
def beside (s : σ) (others : List (Disturbance V)) (ranges : List RowRange) :
    Pool (Ledger (Observed (Shared V))) (Numbered τ) :=
  ⟨Ledger.start (Observed.start ⟨s, others⟩), waiting ranges⟩

variable (V) in
/-- What can be seen through the ledger, by whoever uses the storage. -/
def ledgerView : View (Ledger (Observed (Shared V))) (Numbered τ) :=
  (Ledger.wrapping (Observed.view (Shared.wrapping V).view)).view

theorem sane_of_reaches (hs : V.Sound s) (hf : V.file? (Path.join base m.path) s = some c)
    {others : List (Disturbance V)} {ranges : List RowRange}
    {p : Pool (Ledger (Observed (Shared V))) (Numbered τ)}
    (hr : Reaches base m config (beside s others ranges) p) :
  Sane (ledgerView V) (beside s others ranges).storage ranges (Reader.fresh base m config s) p
  := by
  apply (sane_start (Ledger.balanced_start _)).reaches _ hr
  intro l hk range
  have hw : (ledgerView V).refusal? = V.refusal? := rfl
  apply Reader.fresh_congr hw hs hf (hk.sound hs)
  exact (hk.file _).trans hf

/-- Whatever order the ranges are read in and whatever others do with the storage meanwhile: a run
can always be brought to its end, and one that has come to its end gives what new readers give for
the ranges one by one.  Reading one range after another is one of the runs.  If the ranges are all
rows of a file that is consistent with its metadata, then all windows together show the rows that
one new reader would show. -/
theorem faithful_of_reaches (base : Path) (m : FileMetadata) (config : ReaderConfig)
    (hs : V.Sound s) (hf : V.file? (Path.join base m.path) s = some c)
    (others : List (Disturbance V)) (ranges : List RowRange) :
  (∃ p, Reaches base m config (beside s others ranges) p
      ∧ p.storage = (Reader.readRanges base m config ranges (beside s others ranges).storage).2
      ∧ Gives p.jobs (Reader.readRanges base m config ranges (beside s others ranges).storage).1)
    ∧ ∀ p, Reaches base m config (beside s others ranges) p →
      (∃ p' result, Reaches base m config p p' ∧ Gives p'.jobs result)
      ∧ ∀ result, Gives p.jobs result →
        Faithful (Reader.fresh base m config s) ranges p result
        ∧ ∀ shards, RowRange.split m.recordCount shards = .ok ranges → m.Consistent c →
          m.schema?.isSome = true → (config.validateFraming = true → Framing.Valid c) →
          ∃ wss ws, result = .ok wss
            ∧ Reader.fresh base m config s ⟨0, m.recordCount⟩ = .ok ws
            ∧ shownRows wss.flatten = shownRows ws
  := by
  constructor
  · obtain ⟨jobs, hr, -, hg⟩ :=
      reaches_readRanges base m config [] ranges (beside s others ranges).storage
    exact ⟨_, hr, rfl, hg⟩
  · intro p hr
    constructor
    · obtain ⟨p', hr', hf⟩ := exists_finished base m config p
      obtain ⟨result, hg⟩ := exists_gives hf
      exact ⟨p', result, hr', hg⟩
    · intro result hg
      have hw := (sane_of_reaches hs hf hr).faithful rfl hg
      use hw
      intro shards hsplit hm hn hv
      have hk : ∀ range ∈ ranges, ∃ ws, Reader.fresh base m config s range = .ok ws := by
        intro range hr
        obtain ⟨ws, hw, -⟩ :=
          fresh_of_consistent hs hf hm hn hv (RowRange.checkRange_of_mem_split hsplit hr)
        exact ⟨ws, hw⟩
      obtain ⟨wss, rfl⟩ := hw.isOk_iff.mpr hk
      obtain ⟨ws, hf, hrows⟩ := shownRows_split hs hf hm hn hv hsplit (hw.windows wss rfl)
      exact ⟨wss, ws, rfl, hf, hrows⟩

end Split

end Pool

namespace Sample

/-- What a reader of the sample file knows about it, the schema included. -/
def namedMetadata : FileMetadata := { numberMetadata with schema? := some numberSchema }

theorem consistent_namedMetadata :
  namedMetadata.Consistent numberFile.toBytes.1
  where
  rowTotal_eq := consistent_numberMetadata.rowTotal_eq
  rowCount_eq := consistent_numberMetadata.rowCount_eq

/-- All rows of the file, in two ranges. -/
def twoRanges : List RowRange := [⟨0, 3⟩, ⟨3, 2⟩]

theorem split_namedMetadata :
  RowRange.split namedMetadata.recordCount 2 = .ok twoRanges
  := by decide +kernel

/-- Meanwhile somebody else opens the file and reads some of it. -/
def otherCalls : List (Disturbance MemoryStore.view) :=
  [.ofAction (openFile "n") (MemoryStore.view.moves_openFile "n"),
    .ofStream ⟨.ofBytes numberFile.toBytes.1, 0⟩ (read 4) (MemoryStore.view.moves_read 4)]

end Sample

namespace Pool

/-- The five rows of the sample file can be read in two ranges at a time while others use the
file. -/
theorem faithful_of_reaches_numbers :
  ∃ p wss ws,
    Reaches "" Sample.namedMetadata ⟨true, true⟩
      (beside Sample.numberStore Sample.otherCalls Sample.twoRanges) p
    ∧ Gives p.jobs (.ok wss)
    ∧ Faithful (Reader.fresh "" Sample.namedMetadata ⟨true, true⟩ Sample.numberStore)
      Sample.twoRanges p (.ok wss)
    ∧ Reader.fresh "" Sample.namedMetadata ⟨true, true⟩ Sample.numberStore ⟨0, 5⟩ = .ok ws
    ∧ shownRows wss.flatten = shownRows ws
  := by
  obtain ⟨⟨p, hr, -, hg⟩, hp⟩ := faithful_of_reaches "" Sample.namedMetadata ⟨true, true⟩
    Sample.sound_numberStore Sample.holds_numberReader Sample.otherCalls Sample.twoRanges
  obtain ⟨-, hp⟩ := hp p hr
  obtain ⟨hf, hs⟩ := hp _ hg
  obtain ⟨wss, ws, hw, hw', hrows⟩ :=
    hs 2 Sample.split_namedMetadata Sample.consistent_namedMetadata rfl
      fun _ => Sample.valid_numberFile
  rw [hw] at hg hf
  exact ⟨p, wss, ws, hr, hg, hf, hw', hrows⟩

end Pool

namespace Sample

/-- A file of many rows without columns. -/
def longFile : FileBuilder := ⟨⟨[], []⟩, [⟨⟨[], []⟩, [], 2 ^ 60, rfl⟩]⟩

/-- What a reader of this file knows about it. -/
def longMetadata : FileMetadata := .ofFooter "n" longFile.toBytes.2 (some longFile.schema)

theorem consistent_longMetadata :
  longMetadata.Consistent longFile.toBytes.1
  := by decide +kernel

end Sample

/-- The rows of a file that is consistent with its metadata need not be split into ranges: if there
are very many of them, and no fewer ranges are asked for, then splitting panics. -/
theorem Pool.rows_not_split :
  ¬ ∀ (m : FileMetadata) (c : Bytes), m.Consistent c → m.schema?.isSome = true →
    Framing.Valid c → ∀ shards, ∃ ranges, RowRange.split m.recordCount shards = .ok ranges
  := by
  intro h
  obtain ⟨ranges, hr⟩ := h Sample.longMetadata Sample.longFile.toBytes.1
    Sample.consistent_longMetadata rfl (by decide +kernel) Word.largest
  have hp : RowRange.split Sample.longMetadata.recordCount Word.largest
      = .error .capacityOverflow := RowRange.split_eq_error_iff.mpr (by decide +kernel)
  rw [hp] at hr
  cases hr

end BatchFile
