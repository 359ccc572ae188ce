import BatchFile.Proofs.Reader.Correct
import BatchFile.Proofs.Reader.Failure
import Mathlib.Algebra.Ring.Nat

/-!
# The counters of a reader

The history of a reader is made of the ranges that it has been asked for, each with its outcome.
A read that fails leaves the counters alone (`Reader.stats_of_error`), and one that succeeds adds
what its answer amounts to (`Reader.work_of_readOpened`), so the counters are what all answers of
the history amount to (`Reader.stats_of_history`).  None of this depends on what the storage does.
-/

namespace BatchFile

/-! ### Batches that end before a range -/

/-- The number of batches with rows among the given ones of which all rows lie before a row. -/
def endingBy (start : Nat) (ps : List Placed) : Nat :=
  ps.countP fun p => 0 < p.summary.recordCount.toNat && p.behind ≤ start

/-- The number of batches of a footer that have rows, all of them before a row. -/
def FileFooter.endingBy (f : FileFooter) (start : UInt64) : Nat :=
  BatchFile.endingBy start.toNat f.placed

section EndingBy

variable {start before : Nat} {p : Placed} {ps : List Placed} {bs : List BatchSummary}

theorem endingBy_cons_of_le (hc : 0 < p.summary.recordCount.toNat) (h : p.behind ≤ start) :
  endingBy start (p :: ps) = endingBy start ps + 1
  := List.countP_cons_of_pos (by simp [hc, h])

theorem endingBy_cons_of_not
    (h : ¬ (0 < p.summary.recordCount.toNat ∧ p.behind ≤ start)) :
  endingBy start (p :: ps) = endingBy start ps
  := List.countP_cons_of_neg (by simpa using h)

/-- No batch behind a row ends before it. -/
theorem endingBy_placedFrom_eq_zero (h : start ≤ before) :
  endingBy start (placedFrom before bs) = 0
  := by
  apply List.countP_eq_zero.mpr
  intro p hp
  have hb := before_le_of_mem hp
  simp only [Bool.and_eq_true, decide_eq_true_eq, not_and]
  intro hc
  rw [Placed.behind]
  omega

end EndingBy

namespace RowPlan

/-- A walk that comes to its end has skipped the batches that end before the range. -/
theorem skipped_walk {r : RowRange} (hr : r.behind < UInt64.size)
    (hl : r.start.toNat < r.behind) (bs : List BatchSummary) {covered remaining : UInt64}
    (hw : Wanted r covered remaining)
    (he : (walk r.start covered remaining bs).ending = .complete) :
  (walk r.start covered remaining bs).skipped
    = UInt64.ofNat (endingBy r.start.toNat (placedFrom covered.toNat bs))
  := by
  induction bs generalizing covered remaining with
  | nil =>
    rw [walk]
    split <;> rfl
  | cons b bs ih =>
    have hs := walk_cons b bs hr hw
    generalize walk r.start covered remaining (b :: bs) = plan at hs he
    cases hs with
    | done h =>
      have hb := hw.behind_le hl h
      rw [endingBy_placedFrom_eq_zero (by omega)]
      rfl
    | empty _ h =>
      rw [placedFrom, endingBy_cons_of_not (by simp [h]), h, Nat.add_zero]
      apply ih hw he
    | overflow _ _ _ => cases he
    | skip _ hc upTo hu h hn =>
      rw [placedFrom, endingBy_cons_of_le hc (by rwa [Placed.behind, ← hu]), UInt64.ofNat_add,
        ← hu, ← ih hn he]
      rfl
    | select _ upTo rest hu h hn =>
      rw [placedFrom, endingBy_cons_of_not, ← hu, ← ih hn he]
      · rfl
      · rw [Placed.meets_iff_lt, Placed.first, Placed.last] at h
        omega

/-- A plan for some rows that comes to its end skips the batches that end before the range. -/
theorem skipped_ofRange {f : FileFooter} {r : RowRange} (hr : r.behind < UInt64.size)
    (hl : r.limit ≠ 0) (he : (ofRange f r).ending = .complete) :
  (ofRange f r).skipped = UInt64.ofNat (f.endingBy r.start)
  := skipped_walk hr (Reader.start_lt_behind hl) f.batches (wanted_start r) he

end RowPlan

/-! ### What answers amount to -/

/-- An amount of work, in integers. -/
structure Work where
  reads : Nat
  batchesDecoded : Nat
  batchesSkipped : Nat
  rowsReturned : Nat
  emptyResults : Nat

namespace Work

/-- The work of the reads that have given windows: the number of these reads; of those that asked
for rows, the number of all windows and of the batches that end before the range; the number of
all rows asked for; and the number of reads without rows. -/
def ofAnswers (f : FileFooter) (answers : List (RowRange × List Window)) : Work where
  reads := answers.length
  batchesDecoded := ((answers.filter fun a => a.1.limit ≠ 0).map fun a => a.2.length).sum
  batchesSkipped := ((answers.filter fun a => a.1.limit ≠ 0).map fun a =>
    f.endingBy a.1.start).sum
  rowsReturned := (answers.map fun a => a.1.limit.toNat).sum
  emptyResults := answers.countP fun a => a.1.limit = 0

/-- No amount is more than a word counts. -/
structure Fits (w : Work) : Prop where
  reads : w.reads < UInt64.size
  batchesDecoded : w.batchesDecoded < UInt64.size
  batchesSkipped : w.batchesSkipped < UInt64.size
  rowsReturned : w.rowsReturned < UInt64.size
  emptyResults : w.emptyResults < UInt64.size

/-- The work as counters, which start again from zero where they do not fit. -/
def toStats (w : Work) : ReadStats where
  reads := UInt64.ofNat w.reads
  batchesDecoded := UInt64.ofNat w.batchesDecoded
  batchesSkipped := UInt64.ofNat w.batchesSkipped
  rowsReturned := UInt64.ofNat w.rowsReturned
  emptyResults := UInt64.ofNat w.emptyResults

/-- The work that counters stand for. -/
def ofStats (s : ReadStats) : Work where
  reads := s.reads.toNat
  batchesDecoded := s.batchesDecoded.toNat
  batchesSkipped := s.batchesSkipped.toNat
  rowsReturned := s.rowsReturned.toNat
  emptyResults := s.emptyResults.toNat

theorem ofStats_toStats {w : Work} (h : w.Fits) :
  ofStats w.toStats = w
  := by
  rw [toStats, ofStats]
  simp only [UInt64.toNat_ofNat_of_lt', h.reads, h.batchesDecoded, h.batchesSkipped,
    h.rowsReturned, h.emptyResults]

/-- One more answer adds its work. -/
theorem toStats_ofAnswers_append (f : FileFooter) (answers : List (RowRange × List Window))
    (a : RowRange × List Window) :
  (ofAnswers f (answers ++ [a])).toStats
    = (ofAnswers f answers).toStats.merge (ofAnswers f [a]).toStats
  := by
  simp only [toStats, ofAnswers, ReadStats.merge, List.length_append, List.filter_append,
    List.map_append, List.sum_append, List.countP_append, UInt64.ofNat_add]

end Work

namespace Reader

open Storage

variable {σ τ : Type} [Storage σ τ] [Ipc.Decoder] {r : Reader τ} {s : σ} {range : RowRange}

/-! ### The work of one read -/

theorem answerEmpty_eq_ok {x y : τ × σ} {answer : Answer}
    (h : answerEmpty r x = (.ok answer, y)) :
  answer.work = { ReadStats.zero with reads := 1, emptyResults := 1 }
  := by
  rw [answerEmpty] at h
  cases hm : r.metadata.schema? with
  | some schema =>
    rw [hm] at h
    cases h
    rfl
  | none =>
    rw [hm] at h
    obtain ⟨schema, z, -, hz⟩ := Action.bind_eq_ok_iff.mp h
    cases hz
    rfl

/-- The work of an answer is what the answer amounts to. -/
theorem work_of_readOpened {x y : τ × σ} {answer : Answer}
    (hc : checkRange r.metadata.recordCount range = .ok ())
    (h : readOpened r range x = (.ok answer, y)) :
  answer.work = (Work.ofAnswers r.metadata.footer [(range, answer.windows)]).toStats
  := by
  obtain ⟨ws, x₁, x₂, h1, h2, h3⟩ := readOpened_eq_ok h
  have hn := length_of_readSelections h1
  rw [answerWindows] at h3
  by_cases hl : range.limit = 0
  · rw [(RowPlan.ofRange_of_limit_zero hl).1] at hn
    rw [if_pos (List.eq_nil_of_length_eq_zero hn)] at h3
    rw [answerEmpty_eq_ok h3]
    simp [Work.toStats, Work.ofAnswers, hl, ReadStats.zero]
  · have hb := behind_lt_of_checkRange hc
    have hne := RowPlan.selections_ne_nil hb hl h2
    rw [if_neg (by rwa [← List.length_eq_zero_iff, hn, List.length_eq_zero_iff])] at h3
    cases h3
    simp [Work.toStats, Work.ofAnswers, hl, RowPlan.skipped_ofRange hb hl h2]

/-- A read that fails leaves the counters alone. -/
theorem stats_of_error {e : Failure Error} (h : (read range (r, s)).1 = .error e) :
  (read range (r, s)).2.1.stats = r.stats
  := (read_fields_of_error h).1

/-- A read that succeeds adds what its answer amounts to. -/
theorem stats_of_answer {ws : List Window} (h : (read range (r, s)).1 = .ok ws) :
  (read range (r, s)).2.1.stats
    = r.stats.merge (Work.ofAnswers r.metadata.footer [(range, ws)]).toStats
  := by
  have hs := read_step range r s
  generalize read range (r, s) = a at hs h
  cases hs with
  | refused _ => cases h
  | unopened _ _ => cases h
  | failed _ _ _ => cases h
  | answered hc _ ha =>
    cases h
    rw [← work_of_readOpened hc ha]

/-! ### Histories -/

/-- The answers among the outcomes of reads. -/
def answersOf (calls : List (RowRange × Except (Failure Error) (List Window))) :
    List (RowRange × List Window) :=
  calls.filterMap fun c => c.2.toOption.map fun ws => (c.1, ws)

/-- A reader that has been made for some metadata, and the ranges that it has been asked for
since, each with the outcome.  It may have been closed at any time, and whatever may have become
of the storage between two calls. -/
inductive History (σ : Type) [Storage σ τ] (base : Path) (m : FileMetadata)
    (config : ReaderConfig) :
    Reader τ → List (RowRange × Except (Failure Error) (List Window)) → Prop where
  | start : History σ base m config (new base m config) []
  | read {r : Reader τ} {calls : List (RowRange × Except (Failure Error) (List Window))}
    (h : History σ base m config r calls) (range : RowRange) (s : σ) :
    History σ base m config (read range (r, s)).2.1 (calls ++ [(range, (read range (r, s)).1)])
  | close {r : Reader τ} {calls : List (RowRange × Except (Failure Error) (List Window))}
    (h : History σ base m config r calls) (s : σ) :
    History σ base m config (r.close s).1 calls

variable {base : Path} {m : FileMetadata} {config : ReaderConfig}
  {calls : List (RowRange × Except (Failure Error) (List Window))}

theorem metadata_of_history (h : History σ base m config r calls) :
  r.metadata = m
  := by
  induction h with
  | start => rfl
  | @read r _ _ range s ih => rw [(read_fields range r s).2.1, ih]
  | @close r _ _ s ih => rw [close_fst, ih]

/-- The counters are what the answers so far amount to. -/
theorem stats_eq_toStats (h : History σ base m config r calls) :
  r.stats = (Work.ofAnswers m.footer (answersOf calls)).toStats
  := by
  induction h with
  | start => rfl
  | @read r calls h range s ih =>
    rw [answersOf, List.filterMap_append, ← answersOf]
    cases hr : (read range (r, s)).1 with
    | error e => rw [stats_of_error hr, ih, List.filterMap_cons, List.filterMap_nil,
        Except.toOption, Option.map_none, List.append_nil]
    | ok ws =>
      rw [stats_of_answer hr, ih, metadata_of_history h]
      symm
      apply Work.toStats_ofAnswers_append
  | @close r _ _ s ih => rw [close_fst, ih]

/-- Unless they overflow, the counters of a reader are what the answers of its history amount to,
and a read that fails changes none of them. -/
theorem stats_of_history (h : History σ base m config r calls)
    (hf : (Work.ofAnswers m.footer (answersOf calls)).Fits) :
  Work.ofStats r.stats = Work.ofAnswers m.footer (answersOf calls)
    ∧ ∀ (range : RowRange) (s : σ) (e : Failure Error), (read range (r, s)).1 = .error e →
      (read range (r, s)).2.1.stats = r.stats
  := by
  constructor
  · rw [stats_eq_toStats h, Work.ofStats_toStats hf]
  · exact fun _ _ _ => stats_of_error

end Reader

/-- A reader over the sample file has one window for each batch that meets a range. -/
theorem Sample.exists_length_read {r : Reader MemoryStream} {s : MemoryStore} (range : RowRange)
    (h : Reader.Over MemoryStore.view numberFile.toBytes.1 r s) (hm : r.metadata = numberMetadata)
    (hc : Reader.checkRange numberMetadata.recordCount range = .ok ()) (hl : range.limit ≠ 0) :
  ∃ ws, (Reader.read range (r, s)).1 = .ok ws
    ∧ ws.length = (numberMetadata.footer.meeting range).length
  := by
  have hk : Reader.checkedIn r.path r.config numberFile.toBytes.1 = .ok () :=
    Reader.checkedIn_eq_ok_iff.mpr fun _ => valid_numberFile
  rw [← hm] at hc ⊢
  obtain ⟨ws, hw, -⟩ := Reader.serves_of_over h hk (hm ▸ consistent_numberMetadata) hc
    (fun h0 => (hl h0).elim) fun h0 => (hl h0).elim
  use ws, hw
  exact (Reader.forall₂_cut_of_read h.holds hl hw).length_eq.symm

/-- A reader over the sample file remains one. -/
theorem Sample.exists_read {r : Reader MemoryStream} {s : MemoryStore} (range : RowRange)
    (h : Reader.Over MemoryStore.view numberFile.toBytes.1 r s)
    (hm : r.metadata = numberMetadata) :
  ∃ r' s', (Reader.read range (r, s)).2 = (r', s')
    ∧ Reader.Over MemoryStore.view numberFile.toBytes.1 r' s' ∧ r'.metadata = numberMetadata
  := ⟨_, _, rfl, Reader.over_read range h, (Reader.read_fields range r s).2.1.trans hm⟩

/-- A read, a refused one and another read, which decode three batches together and skip one,
after which the reader is closed. -/
theorem Reader.stats_of_history_numbers :
  ∃ r calls, History MemoryStore "" Sample.numberMetadata ⟨true, true⟩ r calls
    ∧ (Work.ofAnswers Sample.numberMetadata.footer (answersOf calls)).Fits
    ∧ Work.ofStats r.stats = ⟨2, 3, 1, 6, 0⟩
    ∧ ∀ (range : RowRange) (s : MemoryStore) (e : Failure Error), (read range (r, s)).1 = .error e →
      (read range (r, s)).2.1.stats = r.stats
  := by
  have ho₀ : Over MemoryStore.view Sample.numberFile.toBytes.1 Sample.numberReader
      Sample.numberStore := ⟨Sample.sound_numberStore, Sample.holds_numberReader, nofun⟩
  have hh₀ : History MemoryStore "" Sample.numberMetadata ⟨true, true⟩ Sample.numberReader [] :=
    .start
  obtain ⟨r₁, s₁, hx₁, ho₁, hm₁⟩ := Sample.exists_read ⟨1, 3⟩ ho₀ rfl
  obtain ⟨ws₁, hw₁, hn₁⟩ := Sample.exists_length_read ⟨1, 3⟩ ho₀ rfl
    (by decide +kernel) (by decide)
  have hh₁ := hh₀.read ⟨1, 3⟩ Sample.numberStore
  rw [hx₁, hw₁] at hh₁
  obtain ⟨r₂, s₂, hx₂, ho₂, hm₂⟩ := Sample.exists_read ⟨4, 2⟩ ho₁ hm₁
  have he : (read ⟨4, 2⟩ (r₁, s₁)).1 = .error (.invalidRange 4 2 5) := by
    have hc : checkRange r₁.metadata.recordCount ⟨4, 2⟩ = .error (.invalidRange 4 2 5) := by
      rw [hm₁]
      decide +kernel
    rw [read, hc]
  have hh₂ := hh₁.read ⟨4, 2⟩ s₁
  rw [hx₂, he] at hh₂
  obtain ⟨ws₃, hw₃, hn₃⟩ := Sample.exists_length_read ⟨2, 3⟩ ho₂ hm₂
    (by decide +kernel) (by decide)
  have hh₃ := (hh₂.read ⟨2, 3⟩ s₂).close (read ⟨2, 3⟩ (r₂, s₂)).2.2
  rw [hw₃] at hh₃
  have hw : Work.ofAnswers Sample.numberMetadata.footer (answersOf
      ([] ++ [(⟨1, 3⟩, .ok ws₁)] ++ [(⟨4, 2⟩, .error (.invalidRange 4 2 5))]
        ++ [(⟨2, 3⟩, .ok ws₃)])) = ⟨2, 3, 1, 6, 0⟩ := by
    have h₁ : (Sample.numberMetadata.footer.meeting ⟨1, 3⟩).length = 2 := by decide +kernel
    have h₃ : (Sample.numberMetadata.footer.meeting ⟨2, 3⟩).length = 1 := by decide +kernel
    have hs₁ : Sample.numberMetadata.footer.endingBy 1 = 0 := by decide +kernel
    have hs₃ : Sample.numberMetadata.footer.endingBy 2 = 1 := by decide +kernel
    simp [answersOf, Work.ofAnswers, Except.toOption, hn₁, hn₃, h₁, h₃, hs₁, hs₃]
  have hf : (Work.mk 2 3 1 6 0).Fits := ⟨by decide, by decide, by decide, by decide, by decide⟩
  rw [← hw] at hf
  have h := stats_of_history hh₃ hf
  rw [hw] at h
  exact ⟨_, _, hh₃, hf, h⟩

end BatchFile
