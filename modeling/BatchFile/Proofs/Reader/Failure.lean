import BatchFile.Proofs.Reader.Correct

/-!
# How reads of rows fail

A batch is needed for a range if it has rows and the batches before it do not cover the range.
`Placed.problem?` is what is wrong with a needed batch, if anything is, and `missingIn?` what is
wrong if the batches end before the range.  Reading rows from an open stream fails with the
problem of the first needed batch that has one, or else because rows are missing
(`errorOf?_read`); the batches that are not needed play no part (`RowPlan.ofRange_congr`).
-/

namespace BatchFile

/-! ### Needed batches -/

theorem Reader.start_lt_behind {range : RowRange} (hl : range.limit ≠ 0) :
  range.start.toNat < range.behind
  := Nat.lt_add_of_pos_right (Word.toNat_pos hl)

namespace Placed

/-- Whether a batch is needed for a range: it has rows, and the rows before it do not reach
the end of the range. -/
def isNeeded (r : RowRange) (p : Placed) : Bool :=
  p.before < r.behind && 0 < p.summary.recordCount.toNat

theorem isNeeded_iff {r : RowRange} {p : Placed} :
  p.isNeeded r = true ↔ p.before < r.behind ∧ 0 < p.summary.recordCount.toNat
  := by
  rw [isNeeded, Bool.and_eq_true, decide_eq_true_iff, decide_eq_true_iff]

end Placed

/-- The batches at the given places that are needed for a range. -/
def neededOf (r : RowRange) (ps : List Placed) : List Placed :=
  ps.filter fun p => p.isNeeded r

/-- The batches of a footer that are needed for a range, in order. -/
def FileFooter.needed (f : FileFooter) (r : RowRange) : List Placed := neededOf r f.placed

section Needed

variable {r : RowRange} {before : Nat} {b : BatchSummary} {bs : List BatchSummary}

/-- No batch behind a range is needed. -/
theorem neededOf_placedFrom_eq_nil (h : r.behind ≤ before) :
  neededOf r (placedFrom before bs) = []
  := by
  apply List.filter_eq_nil_iff.mpr
  intro p hp
  have hb := before_le_of_mem hp
  rw [Placed.isNeeded_iff]
  omega

theorem neededOf_placedFrom_cons (h : before < r.behind) (hc : 0 < b.recordCount.toNat) :
  neededOf r (placedFrom before (b :: bs))
    = ⟨before, b⟩ :: neededOf r (placedFrom (before + b.recordCount.toNat) bs)
  := List.filter_cons_of_pos (Placed.isNeeded_iff.mpr ⟨h, hc⟩)

theorem neededOf_placedFrom_cons_of_eq_zero (hc : b.recordCount.toNat = 0) :
  neededOf r (placedFrom before (b :: bs)) = neededOf r (placedFrom before bs)
  := by
  rw [placedFrom, hc, Nat.add_zero]
  apply List.filter_cons_of_neg
  rw [Placed.isNeeded_iff]
  simp only
  omega

end Needed

namespace RowPlan

variable {r : RowRange} {f f' : FileFooter}

/-- While rows are wanted, the range has not been covered. -/
theorem Wanted.lt_behind {covered remaining : UInt64} (hw : Wanted r covered remaining)
    (hn : remaining ≠ 0) :
  covered.toNat < r.behind
  := by
  have hp := Word.toNat_pos hn
  rw [Wanted] at hw
  omega

/-- If no row is wanted any more, a range with rows has been covered. -/
theorem Wanted.behind_le {covered remaining : UInt64} (hw : Wanted r covered remaining)
    (hl : r.start.toNat < r.behind) (h : remaining = 0) :
  r.behind ≤ covered.toNat
  := by
  have h := hw.eq_zero_iff.mp h
  omega

/-- The walk over the batches is the walk over those that are needed. -/
theorem walk_needed (hr : r.behind < UInt64.size) (hl : r.start.toNat < r.behind)
    (bs : List BatchSummary) {covered remaining : UInt64} (hw : Wanted r covered remaining) :
  walk r.start covered remaining bs
    = walk r.start covered remaining
        ((neededOf r (placedFrom covered.toNat bs)).map Placed.summary)
  := by
  induction bs generalizing covered remaining with
  | nil => rfl
  | cons b bs ih =>
    by_cases hn : remaining = 0
    · rw [neededOf_placedFrom_eq_nil (hw.behind_le hl hn)]
      simp only [walk, List.map_nil, hn, if_true]
    by_cases hc : b.recordCount = 0
    · rw [neededOf_placedFrom_cons_of_eq_zero (by rw [hc]; rfl), ← ih hw, walk, if_neg hn,
        if_pos hc]
    have hp := Word.toNat_pos hc
    rw [neededOf_placedFrom_cons (hw.lt_behind hn) hp, List.map_cons, walk, walk, if_neg hn,
      if_neg hc, if_neg hn, if_neg hc]
    cases ha : Word.add? covered b.recordCount with
    | none => rfl
    | some upTo =>
      have hu := (Word.add?_eq_some_iff.mp ha).symm
      simp only
      rw [← hu]
      split
      · rename_i h
        rw [ih (hw.skip (by omega) (UInt64.le_iff_toNat_le.mp h))]
      · rename_i h
        have h : r.start.toNat < upTo.toNat := by
          rw [UInt64.le_iff_toNat_le] at h
          omega
        rw [selection_eq hr hw, ih (hw.select hu (hw.meets hn hp hu h))]

/-- For a range with rows, footers that need the same batches have the same plan. -/
theorem ofRange_congr (hr : r.behind < UInt64.size) (hl : r.start.toNat < r.behind)
    (h : f'.needed r = f.needed r) :
  ofRange f' r = ofRange f r
  := by
  have hf := walk_needed hr hl f.batches (wanted_start r)
  have hf' := walk_needed hr hl f'.batches (wanted_start r)
  rw [ofRange, ofRange, hf, hf']
  congr 2

end RowPlan

/-! ### Problems of batches -/

section Problems

open Storage

variable {σ τ : Type} [Storage σ τ] (V : View σ τ) (path : Path) (config : ReaderConfig)
  (c : Bytes) (range : RowRange)

/-- What is wrong if the batches have so many rows in all: there are rows of the range behind
them. -/
def missingIn? (total : Nat) : Option (Failure Error) :=
  if total < range.behind then
    some (.dataFormat path (.missingRows (UInt64.ofNat total)
      (UInt64.ofNat (range.behind - max range.start.toNat total)) range.limit range.start))
  else none

theorem missingIn?_ne_none_iff {total : Nat} :
  missingIn? path range total ≠ none ↔ total < range.behind
  := by
  rw [missingIn?]
  split <;> simp [*]

theorem missingIn?_eq_some {total : Nat} {e : Failure Error}
    (h : missingIn? path range total = some e) :
  e.isDataFormat = true
  := by
  rw [missingIn?] at h
  split at h <;> cases h
  rfl

/-- The row behind the last one that a batch shares with a range, counted from its first row. -/
theorem Placed.last_sub_before (p : Placed) :
  p.last range - p.before = min p.summary.recordCount.toNat (range.behind - p.before)
  := by
  rw [last, behind]
  omega

theorem Reader.errorOf?_cut {p : Placed} (hm : p.meets range = true) (batch : RecordBatch) :
  errorOf? (cut path config (p.selection range) batch)
    = if config.verifyRowCounts = true ∧ batch.rowCount ≠ p.summary.recordCount.toNat then
        some (.dataFormat path
          (.rowCount p.summary.offset batch.rowCount p.summary.recordCount))
      else if batch.rowCount < p.last range - p.before then
        some (.dataFormat path (.missingBatchRows p.summary.offset
          (p.first range - p.before) (p.last range - p.before)))
      else none
  := by
  have hl := Placed.meets_iff_lt.mp hm
  have hb := p.before_le_first range
  rw [cut, Placed.toNat_start_selection, Placed.toNat_stop_selection, Window.ofRange?]
  simp only [Bool.and_eq_true, decide_eq_true_eq]
  have hs : (p.selection range).summary = p.summary := rfl
  rw [hs]
  split
  · rfl
  · by_cases hw : batch.rowCount < p.last range - p.before
    · rw [dif_neg (by omega), if_pos hw]
      rfl
    · rw [dif_pos (by omega), if_neg hw]
      rfl

variable [Ipc.Decoder]

/-- What is wrong with a needed batch, the first of these: the rows up to its end are more than a
word counts, or, unless it ends before the range, there is no batch at its offset, that has
another number of rows than recorded and row counts are compared, or it does not have the rows
that it should share with the range. -/
def Placed.problem? (p : Placed) : Option (Failure Error) :=
  if UInt64.size ≤ p.behind then
    some (.dataFormat path (.countsTooLargeAt p.summary.offset))
  else if p.behind ≤ range.start.toNat then none
  else
    match Reader.decodeIn V path c p.summary.offset with
    | .error e => some e
    | .ok batch =>
      if config.verifyRowCounts = true ∧ batch.rowCount ≠ p.summary.recordCount.toNat then
        some (.dataFormat path
          (.rowCount p.summary.offset batch.rowCount p.summary.recordCount))
      else if batch.rowCount < p.last range - p.before then
        some (.dataFormat path (.missingBatchRows p.summary.offset
          (p.first range - p.before) (p.last range - p.before)))
      else none

namespace Reader

/-- What a plan comes to over contents: the windows of its selections, if it comes to its
end. -/
def carriedOut (plan : RowPlan) : Except (Failure Error) (List Window) := do
  let windows ← windowsIn V path config c plan.selections
  checkEnd path range plan.ending
  return windows

variable {V path config c range}

/-- A plan that selects from a batch first fails with the problem of this batch, or else as the
rest of the plan does. -/
theorem errorOf?_carriedOut_select {p : Placed} {plan : RowPlan} (hm : p.meets range = true)
    (hu : p.behind < UInt64.size) :
  errorOf? (carriedOut V path config c range (plan.select (p.selection range)))
    = (p.problem? V path config c range).or (errorOf? (carriedOut V path config c range plan))
  := by
  have hl := Placed.meets_iff_lt.mp hm
  have hb : ¬ p.behind ≤ range.start.toNat := by
    rw [Placed.first, Placed.last] at hl
    omega
  rw [Placed.problem?, if_neg (by omega), if_neg hb, carriedOut, RowPlan.select, windowsIn]
  have hs : (p.selection range).summary = p.summary := rfl
  rw [hs]
  cases decodeIn V path c p.summary.offset with
  | error e => rfl
  | ok batch =>
    have hc : errorOf? (cut path config (p.selection range) batch) = _ :=
      errorOf?_cut path config range hm batch
    simp only
    rw [← hc]
    cases hw : cut path config (p.selection range) batch with
    | error e =>
      simp only [bind, Except.bind, hw]
      rfl
    | ok w =>
      simp only [bind, Except.bind, hw, carriedOut]
      cases windowsIn V path config c plan.selections with
      | error e => rfl
      | ok ws =>
        simp only
        cases checkEnd path range plan.ending <;> rfl

theorem carriedOut_skip (plan : RowPlan) :
  carriedOut V path config c range plan.skip = carriedOut V path config c range plan
  := rfl

/-- Walking over the batches comes to the problem of the first needed one that has one, or else
to missing rows. -/
theorem errorOf?_carriedOut_walk (hr : range.behind < UInt64.size)
    (hl : range.start.toNat < range.behind) (bs : List BatchSummary)
    {covered remaining : UInt64} (hw : RowPlan.Wanted range covered remaining) :
  errorOf? (carriedOut V path config c range (RowPlan.walk range.start covered remaining bs))
    = ((neededOf range (placedFrom covered.toNat bs)).findSome? fun p =>
        p.problem? V path config c range).or
      (missingIn? path range (covered.toNat + rowTotal bs))
  := by
  induction bs generalizing covered remaining with
  | nil =>
    rw [RowPlan.walk, rowTotal, Nat.add_zero, missingIn?]
    by_cases hn : remaining = 0
    · rw [if_pos hn, if_neg (Nat.not_lt.mpr (hw.behind_le hl hn))]
      rfl
    · rw [if_neg hn, if_pos (hw.lt_behind hn), ← hw, UInt64.ofNat_toNat, UInt64.ofNat_toNat]
      rfl
  | cons b bs ih =>
    have hs := RowPlan.walk_cons b bs hr hw
    rw [rowTotal]
    generalize RowPlan.walk range.start covered remaining (b :: bs) = plan at hs
    cases hs with
    | done hn =>
      have hb := hw.behind_le hl hn
      rw [neededOf_placedFrom_eq_nil hb, missingIn?, if_neg (by omega)]
      rfl
    | empty _ hc =>
      rw [neededOf_placedFrom_cons_of_eq_zero hc, ih hw, hc, Nat.zero_add]
    | overflow hn hc h =>
      rw [neededOf_placedFrom_cons (hw.lt_behind hn) hc, List.findSome?_cons, Placed.problem?,
        if_pos (show UInt64.size ≤ Placed.behind ⟨covered.toNat, b⟩ from h)]
      rfl
    | skip hn hc upTo hu h hn' =>
      have hsize : upTo.toNat < UInt64.size := upTo.toNat_lt
      rw [neededOf_placedFrom_cons (hw.lt_behind hn) hc, List.findSome?_cons, Placed.problem?,
        Placed.behind]
      simp only
      rw [← hu, if_neg (by omega), if_pos h, carriedOut_skip, ih hn', hu, Nat.add_assoc]
    | select hn upTo rest hu hm hn' =>
      have hsize : upTo.toNat < UInt64.size := upTo.toNat_lt
      rw [errorOf?_carriedOut_select hm (by rw [Placed.behind, ← hu]; exact hsize), ih hn',
        neededOf_placedFrom_cons (hw.lt_behind hn) (Placed.recordCount_pos hm), List.findSome?_cons,
        hu, Nat.add_assoc]
      cases Placed.problem? V path config c range ⟨covered.toNat, b⟩ <;> rfl

/-! ### Reading rows from an open stream -/

/-- Rows are read as the plan for the range is carried out. -/
theorem readIn_of_rows {m : FileMetadata} {known? : Option Schema}
    (hc : checkRange m.recordCount range = .ok ()) (hl : range.limit ≠ 0) :
  readIn V path config m known? c range
    = carriedOut V path config c range (RowPlan.ofRange m.footer range)
  := by
  rw [readIn, carriedOut]
  cases hw : windowsIn V path config c (RowPlan.ofRange m.footer range).selections with
  | error e => rfl
  | ok ws =>
    cases he : checkEnd path range (RowPlan.ofRange m.footer range).ending with
    | error e => rfl
    | ok _ =>
      have hn := windows_ne_nil hc hl (checkEnd_eq_ok_iff.mp he) hw
      simp only [bind, Except.bind, if_neg hn]

variable {r : Reader τ} {s : σ} {t : τ}

/-- What reading rows from an open stream gives is a function of the contents that it shows. -/
theorem read_of_opened (ho : r.state = .opened t) (hx : V.Shows c (t, s))
    (hc : checkRange r.metadata.recordCount range = .ok ()) (hl : range.limit ≠ 0) :
  (read range (r, s)).1
    = carriedOut V r.path r.config c range (RowPlan.ofRange r.metadata.footer range)
  := by
  have hr : Ready V c r s := by
    refine ⟨hx.1, ?_, ?_⟩
    · rw [Holds, ho]
      apply hx.2
    · intro hn
      rw [isOpen, ho] at hn
      cases hn
  rw [read_of_ready hr hc fun h0 => (hl h0).elim, readIn_of_rows hc hl]

/-- Reading rows from an open stream fails with the problem of the first needed batch that has
one, or else because rows are missing. -/
theorem errorOf?_read (ho : r.state = .opened t) (hx : V.Shows c (t, s))
    (hc : checkRange r.metadata.recordCount range = .ok ()) (hl : range.limit ≠ 0) :
  errorOf? (read range (r, s)).1
    = ((r.metadata.footer.needed range).findSome? fun p =>
        p.problem? V r.path r.config c range).or
      (missingIn? r.path range (rowTotal r.metadata.footer.batches))
  := by
  have h : errorOf? (carriedOut V r.path r.config c range
        (RowPlan.walk range.start 0 range.limit r.metadata.footer.batches)) = _ :=
    errorOf?_carriedOut_walk (behind_lt_of_checkRange hc) (start_lt_behind hl) _
      (RowPlan.wanted_start range)
  rw [UInt64.toNat_zero, Nat.zero_add] at h
  rw [read_of_opened ho hx hc hl]
  exact h

end Reader

/-! ### Defective batches -/

/-- Something is wrong with a needed batch: the rows up to its end are more than a word counts;
or it ends behind the start of the range, and at its offset there is no batch, or one with
another number of rows than recorded, if row counts are compared, or one with fewer rows than
the rows up to its end or that of the range. -/
def Placed.Defective (config : ReaderConfig) (c : Bytes) (range : RowRange) (p : Placed) : Prop :=
  UInt64.size ≤ p.behind
    ∨ range.start.toNat < p.behind
      ∧ ((∀ batch, batchIn c p.summary.offset ≠ .ok batch)
        ∨ ∃ batch, batchIn c p.summary.offset = .ok batch
          ∧ (config.verifyRowCounts = true ∧ batch.rowCount ≠ p.summary.recordCount.toNat
            ∨ batch.rowCount < min p.summary.recordCount.toNat (range.behind - p.before)))

namespace Placed

variable {V path config c range} {p : Placed}

theorem problem?_eq_some {e : Failure Error} (h : p.problem? V path config c range = some e) :
  e.isDataFormat = true ∨ ∃ k, V.refusal? p.summary.offset = some k ∧ e = .io path k
  := by
  rw [problem?] at h
  split at h
  · cases h
    exact .inl rfl
  split at h
  · cases h
  split at h
  · rename_i hd
    cases h
    apply Reader.decodeIn_eq_error hd
  split at h
  · cases h
    exact .inl rfl
  split at h
  · cases h
    exact .inl rfl
  · cases h

/-- A needed batch has a problem just if it is defective. -/
theorem problem?_ne_none_iff (hr : ∀ q : UInt64, q.toNat ≤ c.length → V.refusal? q = none) :
  p.problem? V path config c range ≠ none ↔ p.Defective config c range
  := by
  rw [problem?, Defective, last_sub_before]
  by_cases hu : UInt64.size ≤ p.behind
  · simp [hu]
  by_cases hs : p.behind ≤ range.start.toNat
  · simp [hu, hs, Nat.not_lt.mpr hs]
  rw [if_neg hu, if_neg hs]
  have hs := Nat.lt_of_not_le hs
  cases hx : Reader.decodeIn V path c p.summary.offset with
  | error e =>
    have hn : ∀ batch, batchIn c p.summary.offset ≠ .ok batch := by
      intro batch hb
      rw [(Reader.decodeIn_eq_ok_iff hr).mpr hb] at hx
      cases hx
    exact ⟨fun _ => .inr ⟨hs, .inl hn⟩, fun _ => nofun⟩
  | ok batch =>
    have hb := (Reader.decodeIn_eq_ok_iff hr).mp hx
    simp only [hb, hu, hs, false_or, true_and, Except.ok.injEq, ne_eq, forall_eq',
      exists_eq_left']
    by_cases hv : config.verifyRowCounts = true ∧ ¬ batch.rowCount = p.summary.recordCount.toNat
    · simp [hv]
    by_cases hw : batch.rowCount < min p.summary.recordCount.toNat (range.behind - p.before)
    · rw [if_neg hv, if_pos hw]
      exact ⟨fun _ => .inr hw, fun _ => nofun⟩
    · rw [if_neg hv, if_neg hw]
      exact ⟨fun h => (h rfl).elim, fun h => (h.elim hv hw).elim⟩

end Placed

variable {V path config c range}

/-- There is a first problem, or rows are missing, just if some batch is defective or rows are
missing. -/
theorem firstProblem_ne_none_iff (hr : ∀ q : UInt64, q.toNat ≤ c.length → V.refusal? q = none)
    {ps : List Placed} {total : Nat} :
  (ps.findSome? fun p => p.problem? V path config c range).or (missingIn? path range total) ≠ none
    ↔ (∃ p ∈ ps, p.Defective config c range) ∨ total < range.behind
  := by
  rw [ne_eq, Option.or_eq_none_iff, not_and_or, ← ne_eq (missingIn? path range total),
    missingIn?_ne_none_iff, List.findSome?_eq_none_iff]
  simp only [not_forall, exists_prop, Placed.problem?_ne_none_iff hr]

namespace Reader

variable {r : Reader τ} {s : σ} {t : τ}

/-- Reading rows from an open stream fails with the problem of the first needed batch that has
one, and if none has, then because the batches end before the range; so it fails just if some
needed batch is defective or rows are missing.  The error blames the contents, unless the stream
refuses to go to the offset of a needed batch.  Batches that are not needed play no part. -/
theorem read_eq_error_iff (ho : r.state = .opened t) (hx : V.Shows c (t, s))
    (hc : checkRange r.metadata.recordCount range = .ok ()) (hl : range.limit ≠ 0) :
  (∀ e, (read range (r, s)).1 = .error e
    ↔ ((r.metadata.footer.needed range).findSome? fun p =>
          p.problem? V r.path r.config c range) = some e
      ∨ (∀ p ∈ r.metadata.footer.needed range, p.problem? V r.path r.config c range = none)
        ∧ missingIn? r.path range (rowTotal r.metadata.footer.batches) = some e)
  ∧ ((∃ e, (read range (r, s)).1 = .error e)
    ↔ (∃ p ∈ r.metadata.footer.needed range, p.Defective r.config c range)
      ∨ rowTotal r.metadata.footer.batches < range.behind)
  ∧ (∀ e, (read range (r, s)).1 = .error e → e.isDataFormat = true
    ∨ ∃ p ∈ r.metadata.footer.needed range, ∃ k,
      V.refusal? p.summary.offset = some k ∧ e = .io r.path k)
  ∧ ∀ f : FileFooter, f.needed range = r.metadata.footer.needed range →
    (read range ({ r with metadata := { r.metadata with footer := f } }, s)).1
      = (read range (r, s)).1
  := by
  have hf := errorOf?_read ho hx hc hl
  have hfirst : ∀ e, (read range (r, s)).1 = .error e
      ↔ ((r.metadata.footer.needed range).findSome? fun p =>
            p.problem? V r.path r.config c range) = some e
        ∨ (∀ p ∈ r.metadata.footer.needed range, p.problem? V r.path r.config c range = none)
          ∧ missingIn? r.path range (rowTotal r.metadata.footer.batches) = some e := by
    intro e
    rw [← errorOf?_eq_some_iff, hf, Option.or_eq_some_iff, List.findSome?_eq_none_iff]
  refine ⟨hfirst, ?_, ?_, ?_⟩
  · rw [exists_eq_error_iff, hf]
    apply firstProblem_ne_none_iff
    intro q hq
    apply V.refusal?_eq_none hx.1 hx.2 hq
  · intro e he
    rcases (hfirst e).mp he with h | ⟨-, h⟩
    · obtain ⟨p, hp, h⟩ := List.exists_of_findSome?_eq_some h
      rcases Placed.problem?_eq_some h with hd | hk
      · exact .inl hd
      · exact .inr ⟨p, hp, hk⟩
    · exact .inl (missingIn?_eq_some r.path range h)
  · intro f hn
    have hr := behind_lt_of_checkRange hc
    have hn := RowPlan.ofRange_congr hr (start_lt_behind hl) hn
    have hp := read_of_opened (r := { r with metadata := { r.metadata with footer := f } })
      ho hx hc hl
    rw [hp, read_of_opened ho hx hc hl]
    simp only [hn]

end Reader

end Problems

/-- Metadata with two mistakes: there is no batch at offset 5, and the counts are more than a
word in the end. -/
def Sample.brokenMetadata : FileMetadata :=
  ⟨"n", 9, ⟨[⟨10, 2⟩, ⟨5, 4⟩, ⟨0, 0⟩, ⟨666, UInt64.ofNat (UInt64.size - 1)⟩]⟩, none⟩

/-- A reader with these metadata whose stream is open and has been left somewhere. -/
def Sample.brokenReader : Reader MemoryStream :=
  { (Reader.new "" brokenMetadata ⟨true, true⟩ : Reader MemoryStream) with
    state := .opened ⟨.ofBytes numberFile.toBytes.1, 3⟩ }

theorem Sample.shows_brokenReader :
  MemoryStore.view.Shows numberFile.toBytes.1
    (⟨.ofBytes numberFile.toBytes.1, 3⟩, numberStore)
  := by
  use sound_numberStore
  exact congrArg some (SparseBytes.toBytes_ofBytes _)

/-- All batches but the empty one are needed for the rows from 1 up to 7, and the first mistake
is the one that is seen. -/
theorem Reader.read_broken_numbers :
  (read ⟨1, 6⟩ (Sample.brokenReader, Sample.numberStore)).1
    = .error (.dataFormat "n" (.noStream 5 (.unreadable .unexpectedEof)))
  := by
  have hc : checkRange Sample.brokenReader.metadata.recordCount ⟨1, 6⟩ = .ok () := by
    decide +kernel
  have h := read_eq_error_iff (V := MemoryStore.view) rfl Sample.shows_brokenReader hc (by decide)
  apply (h.1 _).mpr
  left
  decide +kernel

end BatchFile
