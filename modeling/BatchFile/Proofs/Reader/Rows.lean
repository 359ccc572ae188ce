import BatchFile.Proofs.Reader.Over
import BatchFile.Proofs.Related

/-!
# The rows of a read

The windows of a read are cut from the batches that meet the range (`Placed.Cut`), one from
each, in the order of the footer, so that their sizes add up to the limit.  If the contents
are consistent with the metadata, then the rows of the windows are the rows of the range.
-/

namespace BatchFile

variable {config : ReaderConfig} {c : Bytes} {r : RowRange}

/-! ### Batches that meet a range -/

theorem Placed.before_le_first (r : RowRange) (p : Placed) :
  p.before ≤ p.first r
  := Nat.le_max_left _ _

theorem meets_of_mem_meeting {f : FileFooter} {p : Placed} (h : p ∈ f.meeting r) :
  p.meets r = true
  := (List.mem_filter.mp h).2

theorem summary_mem_of_mem_placedFrom {before : Nat} {bs : List BatchSummary} {p : Placed}
    (h : p ∈ placedFrom before bs) :
  p.summary ∈ bs
  := by
  induction bs generalizing before with
  | nil => cases h
  | cons b bs ih =>
    rcases List.mem_cons.mp h with rfl | h
    · apply List.mem_cons_self
    · apply List.mem_cons_of_mem b (ih h)

theorem summary_mem_of_mem_meeting {f : FileFooter} {p : Placed} (h : p ∈ f.meeting r) :
  p.summary ∈ f.batches
  := summary_mem_of_mem_placedFrom (List.mem_filter.mp h).1

/-! ### Windows of placed batches -/

variable [Ipc.Decoder]

/-- A window is cut from the batch at a place: it holds the batch that the contents have
there, shows the rows that the batch shares with the range, and shows at least one. -/
structure Placed.Cut (config : ReaderConfig) (c : Bytes) (r : RowRange) (p : Placed)
    (w : Window) : Prop where
  batch : batchIn c p.summary.offset = .ok w.batch
  start : w.start = p.first r - p.before
  stop : w.stop = p.last r - p.before
  start_lt_stop : w.start < w.stop
  stop_le_rowCount : w.stop ≤ w.batch.rowCount
  rowCount : config.verifyRowCounts = true →
    w.batch.rowCount = p.summary.recordCount.toNat

theorem Placed.cut_iff_gives {p : Placed} {w : Window} (hm : p.meets r = true) :
  p.Cut config c r w ↔ (p.selection r).Gives config c w
  := by
  have hl := meets_iff_lt.mp hm
  have hb := p.before_le_first r
  constructor
  · intro h
    refine ⟨h.batch, ?_, ?_, h.rowCount⟩
    · rw [h.start, toNat_start_selection]
    · rw [h.stop, toNat_stop_selection]
  · intro h
    have hs := h.start
    have ht := h.stop
    rw [toNat_start_selection] at hs
    rw [toNat_stop_selection] at ht
    exact ⟨h.batch, hs, ht, by omega, w.stop_le_rowCount, h.rowCount⟩

theorem Placed.Cut.size_eq {p : Placed} {w : Window} (h : p.Cut config c r w) :
  w.size = p.last r - p.first r
  := by
  have hs := h.start
  have ht := h.stop
  have hl := h.start_lt_stop
  have hb := p.before_le_first r
  rw [Window.size]
  omega

theorem totalSize_of_cut {ps : List Placed} {ws : List Window}
    (h : List.Forall₂ (Placed.Cut config c r) ps ws) :
  Window.totalSize ws = sharedRows r ps
  := by
  induction h with
  | nil => rfl
  | cons h _ ih => rw [Window.totalSize, sharedRows, ih, h.size_eq]

/-- Windows of the selections from batches that meet the range are cut from these batches. -/
theorem forall₂_cut_iff {ps : List Placed} {ws : List Window}
    (hm : ∀ p ∈ ps, p.meets r = true) :
  List.Forall₂ (Placed.Cut config c r) ps ws
    ↔ List.Forall₂ (Selection.Gives config c) (ps.map fun p => p.selection r) ws
  := by
  rw [List.forall₂_map_left_iff]
  induction ps generalizing ws with
  | nil => simp
  | cons p ps ih =>
    have hp := hm p List.mem_cons_self
    have ih := fun ws => @ih ws fun q hq => hm q (List.mem_cons_of_mem p hq)
    simp only [List.forall₂_cons_left_iff, ih, Placed.cut_iff_gives hp]

/-! ### Consistent contents -/

/-- The rows of the batch that a summary stands for; none if it says so. -/
def rowsAt (c : Bytes) (b : BatchSummary) : List Row :=
  if b.recordCount = 0 then []
  else
    match batchIn c b.offset with
    | .ok batch => batch.rows
    | .error _ => []

namespace FileMetadata

/-- The rows of all batches of a file, one after another. -/
def allRows (m : FileMetadata) (c : Bytes) : List Row :=
  m.footer.batches.flatMap (rowsAt c)

/-- The counts of the footer add up to the number of rows, and every batch that should have
rows is found at its offset with just as many. -/
structure Consistent (m : FileMetadata) (c : Bytes) : Prop where
  rowTotal_eq : rowTotal m.footer.batches = m.recordCount.toNat
  rowCount_eq : ∀ b ∈ m.footer.batches, 0 < b.recordCount.toNat →
    (batchIn c b.offset).map RecordBatch.rowCount = .ok b.recordCount.toNat

instance (m : FileMetadata) (c : Bytes) : Decidable (m.Consistent c) :=
  decidable_of_iff
    (rowTotal m.footer.batches = m.recordCount.toNat
      ∧ ∀ b ∈ m.footer.batches, 0 < b.recordCount.toNat →
        (batchIn c b.offset).map RecordBatch.rowCount = .ok b.recordCount.toNat)
    ⟨fun h => ⟨h.1, h.2⟩, fun h => ⟨h.1, h.2⟩⟩

variable {m : FileMetadata}

theorem Consistent.exists_batch (h : m.Consistent c) {b : BatchSummary}
    (hb : b ∈ m.footer.batches) (hp : 0 < b.recordCount.toNat) :
  ∃ batch, batchIn c b.offset = .ok batch ∧ batch.rowCount = b.recordCount.toNat
  := by
  have hn := h.rowCount_eq b hb hp
  cases hd : batchIn c b.offset with
  | error e =>
    rw [hd] at hn
    cases hn
  | ok batch =>
    rw [hd] at hn
    use batch, rfl
    apply Except.ok.inj hn

theorem Consistent.length_rowsAt (h : m.Consistent c) {b : BatchSummary}
    (hb : b ∈ m.footer.batches) :
  (rowsAt c b).length = b.recordCount.toNat
  := by
  rw [rowsAt]
  split
  · rename_i h0
    rw [h0]
    rfl
  · rename_i h0
    obtain ⟨batch, hd, hn⟩ := h.exists_batch hb (Word.toNat_pos h0)
    rw [hd]
    simp only
    rw [RecordBatch.length_rows, hn]

end FileMetadata

theorem rowsAt_eq {b : BatchSummary} {batch : RecordBatch} (hp : 0 < b.recordCount.toNat)
    (h : batchIn c b.offset = .ok batch) :
  rowsAt c b = batch.rows
  := by
  have h0 : b.recordCount ≠ 0 := by
    rintro h0
    rw [h0] at hp
    apply Nat.lt_irrefl 0 hp
  rw [rowsAt, if_neg h0, h]

/-- A summary stands for a batch: that is found at its offset and has as many rows. -/
def BatchSummary.StandsFor (c : Bytes) (s : BatchSummary) (b : RecordBatch) : Prop :=
  batchIn c s.offset = .ok b ∧ s.recordCount.toNat = b.rowCount

theorem BatchSummary.StandsFor.rowsAt_eq {s : BatchSummary} {b : RecordBatch}
    (h : s.StandsFor c b) :
  rowsAt c s = b.rows
  := by
  by_cases hp : 0 < s.recordCount.toNat
  · apply BatchFile.rowsAt_eq hp h.1
  · have h0 : s.recordCount = 0 := by
      apply Word.toNat_eq_zero_iff.mp
      omega
    have hn : b.rows = [] := by
      apply List.eq_nil_of_length_eq_zero
      rw [b.length_rows, ← h.2, h0]
      rfl
    rw [rowsAt, if_pos h0, hn]

section StandsFor

variable {ss : List BatchSummary} {bs : List RecordBatch}
  (h : List.Forall₂ (BatchSummary.StandsFor c) ss bs)

include h

theorem rowTotal_of_standsFor :
  rowTotal ss = (bs.flatMap RecordBatch.rows).length
  := by
  induction h with
  | nil => rfl
  | cons h _ ih =>
    rw [List.flatMap_cons, List.length_append, RecordBatch.length_rows, rowTotal, ih, h.2]

theorem flatMap_rowsAt_of_standsFor :
  ss.flatMap (rowsAt c) = bs.flatMap RecordBatch.rows
  := by
  induction h with
  | nil => rfl
  | cons h _ ih => rw [List.flatMap_cons, List.flatMap_cons, ih, h.rowsAt_eq]

theorem rowCount_of_standsFor {s : BatchSummary} (hs : s ∈ ss) :
  (batchIn c s.offset).map RecordBatch.rowCount = .ok s.recordCount.toNat
  := by
  obtain ⟨b, -, hb⟩ := exists_of_mem_left h hs
  rw [hb.1, hb.2]
  rfl

end StandsFor

/-- Contents are consistent with the metadata if the summaries stand for batches which have as
many rows together as the metadata say. -/
theorem FileMetadata.consistent_of_standsFor {m : FileMetadata} {bs : List RecordBatch}
    (h : List.Forall₂ (BatchSummary.StandsFor c) m.footer.batches bs)
    (hn : m.recordCount.toNat = (bs.flatMap RecordBatch.rows).length) :
  m.Consistent c ∧ m.allRows c = bs.flatMap RecordBatch.rows
  where
  left := ⟨(rowTotal_of_standsFor h).trans hn.symm, fun _ hs _ => rowCount_of_standsFor h hs⟩
  right := flatMap_rowsAt_of_standsFor h

/-- The rows of a window that is cut from a batch are those that the batch shares with the
range. -/
theorem Placed.Cut.rows_eq {p : Placed} {w : Window} (h : p.Cut config c r w)
    (hm : p.meets r = true) :
  w.rows = ((rowsAt c p.summary).drop (p.first r - p.before)).take (p.last r - p.first r)
  := by
  rw [Window.rows_eq, rowsAt_eq (recordCount_pos hm) h.batch, ← h.size_eq, ← h.start]
  rfl

theorem flatMap_rows_of_cut {ps : List Placed} {ws : List Window}
    (hm : ∀ p ∈ ps, p.meets r = true) (h : List.Forall₂ (Placed.Cut config c r) ps ws) :
  ws.flatMap Window.rows
    = ps.flatMap fun p =>
        ((rowsAt c p.summary).drop (p.first r - p.before)).take (p.last r - p.first r)
  := by
  induction h with
  | nil => rfl
  | cons h _ ih =>
    rw [List.flatMap_cons, List.flatMap_cons, h.rows_eq (hm _ List.mem_cons_self),
      ih fun q hq => hm q (List.mem_cons_of_mem _ hq)]

/-- A batch of consistent contents that meets the range has a window cut from it. -/
theorem exists_cut {m : FileMetadata} (h : m.Consistent c) {p : Placed}
    (hp : p ∈ m.footer.meeting r) :
  ∃ w, p.Cut config c r w
  := by
  have hm := meets_of_mem_meeting hp
  have hl := Placed.meets_iff_lt.mp hm
  have hb := p.before_le_first r
  obtain ⟨batch, hd, hn⟩ :=
    h.exists_batch (summary_mem_of_mem_meeting hp) (Placed.recordCount_pos hm)
  have hs : p.last r - p.before ≤ batch.rowCount := by
    rw [hn, Placed.last, Placed.behind]
    omega
  use ⟨batch, p.first r - p.before, p.last r - p.before, by omega, hs⟩
  exact ⟨hd, rfl, rfl, by simp only; omega, hs, fun _ => hn⟩

end BatchFile
