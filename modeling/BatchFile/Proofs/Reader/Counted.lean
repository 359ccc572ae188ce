import BatchFile.Proofs.Reader.Causes
import BatchFile.Proofs.Reader.Locality
import BatchFile.Proofs.Reader.Sequence
import Mathlib.Algebra.Ring.Nat

/-!
# Files whose rows are counted exactly

The rows of a file are counted exactly if their number is the sum of the counts in its footer, as
integers (`FileMetadata.Counted`).  Loading gives no other metadata, whatever the storage does
(`FileMetadata.counted_of_load`).  Then the plan for a range of the file takes just as many rows as
the range has, and so no read blames the counts of the footer (`Reader.read_of_counted`).
-/

namespace BatchFile

/-! ### Loaded metadata -/

namespace FileMetadata

/-- The number of rows is the sum of the counts in the footer. -/
def Counted (m : FileMetadata) : Prop :=
  m.recordCount.toNat = rowTotal m.footer.batches

instance (m : FileMetadata) : Decidable m.Counted :=
  inferInstanceAs (Decidable (_ = _))

theorem Counted.rowTotal_lt {m : FileMetadata} (h : m.Counted) :
  rowTotal m.footer.batches < UInt64.size
  := h ▸ m.recordCount.toNat_lt

variable {σ τ : Type} [Storage σ τ] [Ipc.Decoder] {m : FileMetadata}

theorem counted_of_read {resolved path : Path} {size : UInt64} {x y : τ × σ}
    (h : read resolved path size x = (.ok m, y)) :
  m.Counted ∧ m.schema?.isSome = true
  := by
  obtain ⟨_, _, -, h⟩ := Action.bind_eq_ok_iff.mp h
  obtain ⟨⟨schema, footer⟩, _, -, h⟩ := Action.bind_eq_ok_iff.mp h
  cases hn : footer.tryRecordCount with
  | none =>
    simp only [hn] at h
    cases h
  | some n =>
    simp only [hn] at h
    cases h
    refine ⟨FileFooter.toNat_recordCount ?_, rfl⟩
    rw [← FileFooter.tryRecordCount_eq_some_iff.mp hn]
    apply n.toNat_lt

/-- Loaded metadata count the rows exactly, and have a schema. -/
theorem counted_of_load {base path : Path} {s : σ} (h : (load base path s).1 = .ok m) :
  m.Counted ∧ m.schema?.isSome = true
  := by
  obtain ⟨_, _, -, h⟩ := Action.bind_eq_ok_iff.mp (Prod.ext h rfl)
  obtain ⟨_, _, -, h⟩ := Action.bind_eq_ok_iff.mp h
  exact counted_of_read (Prod.ext (Prod.mk.inj h).1 rfl)

end FileMetadata

/-! ### Plans -/

/-- The number of selected rows. -/
def Selection.size (x : Selection) : Nat := x.stop.toNat - x.start.toNat

theorem Placed.size_selection (r : RowRange) (p : Placed) :
  (p.selection r).size = p.last r - p.first r
  := by
  rw [Selection.size, toNat_start_selection, toNat_stop_selection, first]
  omega

theorem sum_size_selection (r : RowRange) (ps : List Placed) :
  (ps.map fun p => (p.selection r).size).sum = sharedRows r ps
  := by
  induction ps with
  | nil => rfl
  | cons p ps ih => rw [List.map_cons, List.sum_cons, ih, Placed.size_selection, sharedRows]

namespace RowPlan

variable {f : FileFooter} {range : RowRange}

/-- A plan that comes to its end takes as many rows as are wanted. -/
theorem sum_size_of_complete (hb : range.behind < UInt64.size)
    (he : (ofRange f range).ending = .complete) :
  ((ofRange f range).selections.map Selection.size).sum = range.limit.toNat
  := by
  rw [selections_ofRange hb he, List.map_map, ← sharedRows_meeting hb he]
  apply sum_size_selection

/-- Over exactly counted rows the plan for a range of the file comes to its end. -/
theorem complete_of_counted {m : FileMetadata} (hm : m.Counted)
    (hc : Reader.checkRange m.recordCount range = .ok ()) :
  (ofRange m.footer range).ending = .complete
  := by
  apply ending_ofRange hm.rowTotal_lt
  rw [← hm]
  exact (Reader.checkRange_eq_ok_iff.mp hc).2

end RowPlan

/-! ### Errors -/

/-- Whether the counts in the footer are blamed: they add up to too much, or they leave rows
missing. -/
def Defect.blamesCounts : Defect → Bool
  | countsTooLarge => true
  | countsTooLargeAt _ => true
  | missingRows _ _ _ _ => true
  | _ => false

/-- Whether the counts in the footer of a file are blamed. -/
def Failure.blamesCounts : Failure Error → Bool
  | dataFormat _ defect => defect.blamesCounts
  | _ => false

namespace Defect

variable {d : Defect}

theorem InTrailer.blamesCounts (h : d.InTrailer) :
  d.blamesCounts = false
  := by cases h <;> rfl

theorem InFooter.blamesCounts (h : d.InFooter) :
  d.blamesCounts = false
  := by
  cases h with
  | trailer h => apply h.blamesCounts
  | malformed _ => rfl
  | malformedSchema _ => rfl

theorem InBatch.blamesCounts {offset : UInt64} (h : d.InBatch offset) :
  d.blamesCounts = false
  := by cases h <;> rfl

end Defect

namespace Reader

variable {σ τ : Type} [Storage σ τ] {r : Reader τ} {s : σ} {range : RowRange} {e : Failure Error}

/-- No cause blames the counts. -/
theorem Cause.blamesCounts (h : Cause r range e) :
  e.blamesCounts = false
  := by
  cases h with
  | closed _ => rfl
  | storage _ => rfl
  | framing hd _ _ => apply hd.blamesCounts
  | footer hd _ _ _ => apply hd.blamesCounts
  | batch _ hd => apply hd.blamesCounts
  | rowCount _ _ _ => rfl
  | missingBatchRows _ _ => rfl
  | noRoom _ _ _ => rfl

section Counted

variable [Ipc.Decoder]

/-- Over exactly counted rows a read of a range that the file has fails for a cause only. -/
theorem cause_of_counted (hm : r.metadata.Counted)
    (hc : checkRange r.metadata.recordCount range = .ok ())
    (h : (read range (r, s)).1 = .error e) :
  Cause r range e
  := by
  apply (cause_of_read hc h).resolve_right
  rw [RowPlan.complete_of_counted hm hc]
  nofun

/-- Loaded metadata count the rows of their file exactly, and have its schema.  For a reader with
such metadata the plan for a range that the file has comes to its end and takes just the wanted
rows.  If the read fails nevertheless, it is for one of the causes, and none of these blames the
counts. -/
theorem read_of_counted :
  (∀ (base path : Path) (s : σ) (m : FileMetadata),
    (FileMetadata.load base path s).1 = .ok m → m.Counted ∧ m.schema?.isSome = true)
  ∧ ∀ (r : Reader τ) (s : σ) (range : RowRange), r.metadata.Counted →
    checkRange r.metadata.recordCount range = .ok () →
    (RowPlan.ofRange r.metadata.footer range).ending = .complete
      ∧ ((RowPlan.ofRange r.metadata.footer range).selections.map Selection.size).sum
        = range.limit.toNat
      ∧ ∀ e, (read range (r, s)).1 = .error e → Cause r range e ∧ e.blamesCounts = false
  := by
  refine ⟨fun _ _ _ _ => FileMetadata.counted_of_load, ?_⟩
  intro r s range hm hc
  have he := RowPlan.complete_of_counted hm hc
  refine ⟨he, RowPlan.sum_size_of_complete (behind_lt_of_checkRange hc) he, ?_⟩
  intro e h
  have hcause := cause_of_counted hm hc h
  exact ⟨hcause, hcause.blamesCounts⟩

end Counted

/-- The sample file is loaded.  If it has been cut off in its last batch, three of its rows cannot
be read, which is not because of the counts. -/
theorem read_of_counted_numbers :
  (∃ m, (FileMetadata.load "" "n" Sample.numberStore).1 = .ok m ∧ m.Counted)
  ∧ ((RowPlan.ofRange Sample.numberMetadata.footer ⟨1, 3⟩).selections.map Selection.size).sum = 3
  ∧ ∃ e, (read ⟨1, 3⟩ (Sample.uncheckedReader, Sample.storeOf Sample.shortFile)).1 = .error e
    ∧ Cause Sample.uncheckedReader ⟨1, 3⟩ e ∧ e.blamesCounts = false
  := by
  obtain ⟨hload, hread⟩ := @read_of_counted MemoryStore MemoryStream _ _
  obtain ⟨m, hm⟩ := Sample.exists_load
  obtain ⟨e, he⟩ := Sample.read_shortFile
  obtain ⟨-, hsum, hcause⟩ := hread Sample.uncheckedReader (Sample.storeOf Sample.shortFile) ⟨1, 3⟩
    (by decide +kernel) (by decide +kernel)
  exact ⟨⟨m, hm, (hload _ _ _ _ hm).1⟩, hsum, e, he, hcause e he⟩

end Reader

end BatchFile
