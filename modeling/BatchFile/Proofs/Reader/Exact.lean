import BatchFile.Proofs.Reader.Counters
import BatchFile.Proofs.Word

/-!
# Exact arithmetic

A read counts rows and batches in machine words.  `readExactly` goes over the batches of a footer
as a read does, with one loop that counts and decodes, but stops at once if a sum or a difference
of words is not exact, or if it has decoded a batch from which no row is wanted.  If the range has
been accepted, then it never stops so, whatever the metadata say, the storage does and the decoder
gives: it is what a read does (`readExactly_eq`).  The invariant of the loop is that the wanted rows
are those of the range that are still ahead (`RowPlan.Wanted`), and that no more batches have been
counted than rows.  The counters that a reader adds up over all its reads are another matter.
-/

namespace BatchFile

namespace Placed

variable {r : RowRange} {p : Placed}

/-- The rows that a batch shares with a range start in the batch, and there are some. -/
theorem start_selection_lt (h : p.meets r = true) :
  (p.selection r).start < (p.selection r).summary.recordCount
    ∧ (p.selection r).start < (p.selection r).stop
  := by
  have hs := p.toNat_start_selection r
  have ht := p.toNat_stop_selection r
  rw [meets_iff_lt] at h
  unfold first last behind at *
  rw [UInt64.lt_iff_toNat_lt, UInt64.lt_iff_toNat_lt, hs, ht, selection]
  simp only
  omega

end Placed

/-! ### Checked steps -/

/-- Why a checked read stops. -/
inductive Stop where
  /-- A sum or a difference is not exact. -/
  | inexact
  /-- No row is wanted from a batch that has been decoded. -/
  | misplaced
  /-- The read fails. -/
  | failed (e : Failure Error)

/-- The word, which has to be there. -/
def exactly : Option UInt64 → Except Stop UInt64
  | some n => .ok n
  | none => .error .inexact

/-- The rows wanted from the next batch, up to the end of which there are `upTo` rows. -/
def selectExactly (start upTo remaining : UInt64) (b : BatchSummary) : Except Stop Selection := do
  let before ← exactly (Word.sub? upTo b.recordCount)
  let first := Word.subCapped start before
  let reach ← exactly (Word.add? first remaining)
  return ⟨b, first, min b.recordCount reach⟩

namespace Reader

/-- The window over a decoded batch, and the number of rows that are wanted after it. -/
def cutExactly (path : Path) (config : ReaderConfig) (remaining : UInt64) (x : Selection)
    (batch : RecordBatch) : Except Stop (Window × UInt64) :=
  if x.start < x.summary.recordCount ∧ x.start < x.stop then do
    let w ← (cut path config x batch).mapError .failed
    let size ← exactly (Word.sub? (.ofNat w.stop) (.ofNat w.start))
    let rest ← exactly (Word.sub? remaining size)
    return (w, rest)
  else .error .misplaced

/-- What the loop of a read counts. -/
structure Tally where
  /-- The rows of the batches so far. -/
  covered : UInt64
  /-- The rows that are still wanted. -/
  remaining : UInt64
  /-- The batches with rows that end before the range. -/
  skipped : UInt64
  /-- The batches that have been decoded. -/
  decoded : UInt64

/-- The counts after a batch before the range, up to the end of which there are `upTo` rows. -/
def Tally.skip (t : Tally) (upTo : UInt64) : Tally :=
  { t with covered := upTo, skipped := t.skipped + 1 }

/-- The counts after a batch from which the given rows are taken. -/
def Tally.select (t : Tally) (upTo : UInt64) (x : Selection) : Tally :=
  { t with
    covered := upTo
    remaining := t.remaining - (x.stop - x.start)
    decoded := t.decoded + 1 }

/-- The check that no row is wanted any more. -/
def Tally.check (t : Tally) (path : Path) (range : RowRange) : Except (Failure Error) Unit :=
  if t.remaining = 0 then .ok ()
  else .error (.dataFormat path (.missingRows t.covered t.remaining range.limit range.start))

/-- The windows of some batches, and the numbers of batches skipped and decoded in the end. -/
structure Found where
  windows : List Window
  skipped : UInt64
  decoded : UInt64

/-- What is found with one more window in front. -/
def Found.cons (w : Window) (a : Found) : Found := { a with windows := w :: a.windows }

/-! ### One batch -/

section Batch

variable {range : RowRange} {covered upTo remaining : UInt64} {b : BatchSummary} {path : Path}
  {config : ReaderConfig} {batch : RecordBatch}

/-- If a batch lies behind `covered` rows, then the rows wanted from it are found exactly. -/
theorem selectExactly_eq (hr : range.behind < UInt64.size)
    (hw : RowPlan.Wanted range covered remaining)
    (hu : upTo.toNat = covered.toNat + b.recordCount.toNat) :
  selectExactly range.start upTo remaining b
    = .ok ((⟨covered.toNat, b⟩ : Placed).selection range)
  := by
  have hb : Word.sub? upTo b.recordCount = some covered := Word.sub?_of_add (by omega)
  have hs : (Word.subCapped range.start covered).toNat + remaining.toNat < UInt64.size := by
    unfold RowPlan.Wanted RowRange.behind at *
    rw [Word.toNat_subCapped]
    omega
  rw [← RowPlan.selection_eq hr hw, selectExactly, hb]
  simp only [exactly, bind, Except.bind, Word.add?_of_lt hs]
  rfl

/-- If the batch meets the range, then its window is exact, and so is what remains. -/
theorem cutExactly_eq (hw : RowPlan.Wanted range covered remaining)
    (hm : (⟨covered.toNat, b⟩ : Placed).meets range = true) :
  cutExactly path config remaining ((⟨covered.toNat, b⟩ : Placed).selection range) batch
    = ((cut path config ((⟨covered.toNat, b⟩ : Placed).selection range) batch).map fun w =>
        (w, remaining - (((⟨covered.toNat, b⟩ : Placed).selection range).stop
          - ((⟨covered.toNat, b⟩ : Placed).selection range).start))).mapError .failed
  := by
  have hlt := Placed.start_selection_lt hm
  have hle : ((⟨covered.toNat, b⟩ : Placed).selection range).stop
      - ((⟨covered.toNat, b⟩ : Placed).selection range).start ≤ remaining := by
    rw [UInt64.le_iff_toNat_le, Placed.toNat_stop_sub_start_selection hm, hw, Placed.first,
      Placed.last]
    simp only
    omega
  generalize (⟨covered.toNat, b⟩ : Placed).selection range = x at hlt hle
  rw [cutExactly, if_pos hlt]
  cases hc : cut path config x batch with
  | error e => rfl
  | ok w =>
    obtain ⟨⟨-, hs, ht⟩, -⟩ := cut_eq_ok_iff.mp hc
    simp only [Except.mapError, Except.map, bind, Except.bind, hs, ht, UInt64.ofNat_toNat,
      Word.sub?_of_le (UInt64.le_of_lt hlt.2), Word.sub?_of_le hle, exactly]
    rfl

end Batch

/-! ### Counts -/

/-- The counts of a loop are right: the wanted rows are those of the range that are still ahead, and
every batch that has been counted has some of the rows so far. -/
structure Tally.Right (range : RowRange) (t : Tally) : Prop where
  wanted : RowPlan.Wanted range t.covered t.remaining
  counted : t.skipped.toNat + t.decoded.toNat ≤ t.covered.toNat

section Counts

variable {range : RowRange} {t : Tally} {upTo : UInt64} {b : BatchSummary}

theorem Tally.right_start (range : RowRange) :
  Tally.Right range ⟨0, range.limit, 0, 0⟩
  := ⟨RowPlan.wanted_start range, Nat.le_refl 0⟩

/-- A batch before the range is counted exactly, and the counts stay right. -/
theorem Tally.Right.skip (h : t.Right range) (hc : 0 < b.recordCount.toNat)
    (hu : upTo.toNat = t.covered.toNat + b.recordCount.toNat)
    (hs : upTo.toNat ≤ range.start.toNat) :
  exactly (Word.add? t.skipped 1) = .ok (t.skipped + 1)
    ∧ Tally.Right range (t.skip upTo)
  := by
  have hn := h.counted
  have ht : (t.skipped + 1).toNat = t.skipped.toNat + 1 :=
    Word.toNat_add_one (show t.skipped.toNat < upTo.toNat by omega)
  have ha : Word.add? t.skipped 1 = some (t.skipped + 1) := Word.add?_eq_some_iff.mpr ht.symm
  have hle : t.covered.toNat ≤ upTo.toNat := by omega
  rw [ha]
  refine ⟨rfl, h.wanted.skip hle hs, ?_⟩
  show (t.skipped + 1).toNat + t.decoded.toNat ≤ upTo.toNat
  omega

/-- A batch that meets the range is counted exactly, and the counts stay right. -/
theorem Tally.Right.select (h : t.Right range)
    (hu : upTo.toNat = t.covered.toNat + b.recordCount.toNat)
    (hm : (⟨t.covered.toNat, b⟩ : Placed).meets range = true) :
  exactly (Word.add? t.decoded 1) = .ok (t.decoded + 1)
    ∧ Tally.Right range (t.select upTo ((⟨t.covered.toNat, b⟩ : Placed).selection range))
  := by
  have hn := h.counted
  have hc : 0 < b.recordCount.toNat := Placed.recordCount_pos hm
  have ht : (t.decoded + 1).toNat = t.decoded.toNat + 1 :=
    Word.toNat_add_one (show t.decoded.toNat < upTo.toNat by omega)
  have ha : Word.add? t.decoded 1 = some (t.decoded + 1) := Word.add?_eq_some_iff.mpr ht.symm
  rw [ha]
  refine ⟨rfl, h.wanted.select hu hm, ?_⟩
  show t.skipped.toNat + (t.decoded + 1).toNat ≤ upTo.toNat
  omega

end Counts

/-! ### The checked loop -/

variable {σ τ : Type} [Storage σ τ] [Ipc.Decoder]

/-- The window of a batch from which rows are wanted, up to the end of which there are `upTo` rows,
and what is counted then. -/
def takeExactly (r : Reader τ) (range : RowRange) (t : Tally) (upTo : UInt64) (b : BatchSummary) :
    Action (τ × σ) Stop (Window × Tally) := do
  let batch ← (decodeBatch r.path b.offset).mapError .failed
  let decoded ← .ofExcept (exactly (Word.add? t.decoded 1))
  let x ← .ofExcept (selectExactly range.start upTo t.remaining b)
  let (w, rest) ← .ofExcept (cutExactly r.path r.config t.remaining x batch)
  return (w, { t with covered := upTo, remaining := rest, decoded := decoded })

/-- What is found in the batches that are left. -/
def loopExactly (r : Reader τ) (range : RowRange) (t : Tally) :
    List BatchSummary → Action (τ × σ) Stop Found
  | [] =>
    .ofExcept (((t.check r.path range).map fun _ => ⟨[], t.skipped, t.decoded⟩).mapError .failed)
  | b :: bs =>
    if t.remaining = 0 then .ok ⟨[], t.skipped, t.decoded⟩
    else if b.recordCount = 0 then loopExactly r range t bs
    else
      match Word.add? t.covered b.recordCount with
      | none => .fail (.failed (.dataFormat r.path (.countsTooLargeAt b.offset)))
      | some upTo =>
        if upTo ≤ range.start then do
          let skipped ← .ofExcept (exactly (Word.add? t.skipped 1))
          loopExactly r range { t with covered := upTo, skipped := skipped } bs
        else do
          let (w, t) ← takeExactly r range t upTo b
          let a ← loopExactly r range t bs
          return a.cons w

/-- The answer to a read that has found the given windows. -/
def answerExactly (r : Reader τ) (range : RowRange) (a : Found) :
    Action (τ × σ) (Failure Error) Answer :=
  if a.windows = [] then do
    let answer ← answerEmpty r
    return { answer with work := ⟨1, a.decoded, a.skipped, range.limit, 1⟩ }
  else .ok ⟨a.windows, ⟨1, a.decoded, a.skipped, range.limit, 0⟩, r.footerSchema?⟩

/-- The answer to a read of a range on an open stream, all arithmetic being checked. -/
def readExactly (r : Reader τ) (range : RowRange) : Action (τ × σ) Stop Answer := do
  let a ← loopExactly r range ⟨0, range.limit, 0, 0⟩ r.metadata.footer.batches
  Action.mapError .failed do
    let answer ← answerExactly r range a
    Storage.note (.rangeRead r.path range.start range.limit
      (UInt64.ofNat answer.windows.length) answer.work.batchesDecoded answer.work.batchesSkipped)
    return answer

/-! ### Plans -/

/-- What is found by a plan, some batches having been counted before. -/
def findBy (r : Reader τ) (range : RowRange) (skipped decoded : UInt64) (plan : RowPlan) :
    Action (τ × σ) (Failure Error) Found := do
  let ws ← readSelections r.path r.config plan.selections
  .ofExcept (checkEnd r.path range plan.ending)
  return ⟨ws, skipped + plan.skipped, decoded + .ofNat ws.length⟩

section Plan

variable {r : Reader τ} {range : RowRange} {skipped decoded : UInt64} {plan : RowPlan}

theorem findBy_stop (ending : PlanEnd) :
  (findBy r range skipped decoded (.stop ending) : Action (τ × σ) (Failure Error) Found)
    = .ofExcept ((checkEnd r.path range ending).map fun _ => ⟨[], skipped, decoded⟩)
  := by
  funext y
  simp only [findBy, RowPlan.stop, readSelections, Action.bind_apply, Action.ok_apply,
    Action.ofExcept_apply]
  cases checkEnd r.path range ending with
  | error e => rfl
  | ok _ => simp [Except.map]

theorem findBy_skip :
  (findBy r range skipped decoded plan.skip : Action (τ × σ) (Failure Error) Found)
    = findBy r range (skipped + 1) decoded plan
  := by
  simp only [findBy, RowPlan.skip, UInt64.add_assoc, UInt64.add_comm 1]

theorem findBy_select (x : Selection) :
  (findBy r range skipped decoded (plan.select x) : Action (τ × σ) (Failure Error) Found)
    = (do
        let batch ← decodeBatch r.path x.summary.offset
        let w ← .ofExcept (cut r.path r.config x batch)
        let a ← findBy r range skipped (decoded + 1) plan
        return a.cons w)
  := by
  funext y
  simp only [findBy, RowPlan.select, readSelections, Action.bind_apply, Action.ofExcept_apply]
  rcases decodeBatch r.path x.summary.offset y with ⟨e | batch, z⟩
  · rfl
  simp only
  rcases cut r.path r.config x batch with e | w
  · rfl
  simp only
  rcases readSelections r.path r.config plan.selections z with ⟨e | ws, u⟩
  · rfl
  simp only
  rcases checkEnd r.path range plan.ending with e | _
  · rfl
  · simp [Found.cons, UInt64.ofNat_add, UInt64.add_assoc, UInt64.add_comm 1]

end Plan

/-! ### The whole loop -/

section Loop

variable {r : Reader τ} {range : RowRange} {t : Tally} {upTo : UInt64} {b : BatchSummary}

/-- A batch that meets the range gives its window, and all that is counted is exact. -/
theorem takeExactly_eq (hr : range.behind < UInt64.size) (h : t.Right range)
    (hu : upTo.toNat = t.covered.toNat + b.recordCount.toNat)
    (hm : (⟨t.covered.toNat, b⟩ : Placed).meets range = true) :
  (takeExactly r range t upTo b : Action (τ × σ) Stop (Window × Tally))
    = Action.mapError .failed (do
        let x := (⟨t.covered.toNat, b⟩ : Placed).selection range
        let batch ← decodeBatch r.path x.summary.offset
        let w ← .ofExcept (cut r.path r.config x batch)
        return (w, t.select upTo x))
  := by
  have ho : ((⟨t.covered.toNat, b⟩ : Placed).selection range).summary.offset = b.offset := rfl
  funext y
  simp only [takeExactly, Action.mapError_apply, Action.bind_apply, Action.ofExcept_apply, ho]
  rcases decodeBatch r.path b.offset y with ⟨e | batch, z⟩
  · rfl
  simp only [(h.select hu hm).1, selectExactly_eq hr h.wanted hu, cutExactly_eq h.wanted hm]
  cases cut r.path r.config ((⟨t.covered.toNat, b⟩ : Placed).selection range) batch <;> rfl

/-- If what follows finds what is found by a plan, then with a batch in front it finds what is found
by the plan that selects from this batch first. -/
theorem bind_takeExactly (hr : range.behind < UInt64.size) (h : t.Right range)
    (hu : upTo.toNat = t.covered.toNat + b.recordCount.toNat)
    (hm : (⟨t.covered.toNat, b⟩ : Placed).meets range = true)
    {k : Tally → Action (τ × σ) Stop Found} {plan : RowPlan}
    (hi : k (t.select upTo ((⟨t.covered.toNat, b⟩ : Placed).selection range))
      = (findBy r range t.skipped (t.decoded + 1) plan).mapError .failed) :
  (do
      let (w, t) ← takeExactly r range t upTo b
      let a ← k t
      return a.cons w)
    = (findBy r range t.skipped t.decoded
        (plan.select ((⟨t.covered.toNat, b⟩ : Placed).selection range))).mapError .failed
  := by
  rw [takeExactly_eq hr h hu hm, findBy_select]
  generalize (⟨t.covered.toNat, b⟩ : Placed).selection range = x at hi
  funext y
  simp only [Action.mapError_apply, Action.bind_apply, Action.ofExcept_apply]
  rcases decodeBatch r.path x.summary.offset y with ⟨e | batch, z⟩
  · rfl
  simp only
  rcases cut r.path r.config x batch with e | w
  · rfl
  simp only [Action.pure_apply, hi, Action.mapError_apply]
  rcases findBy r range t.skipped (t.decoded + 1) plan z with ⟨e | a, u⟩ <;> rfl

/-- While the counts are right, the loop finds what is found by the plan for the batches that are
left. -/
theorem loopExactly_eq (hr : range.behind < UInt64.size) (bs : List BatchSummary)
    (h : t.Right range) :
  (loopExactly r range t bs : Action (τ × σ) Stop Found)
    = (findBy r range t.skipped t.decoded
        (RowPlan.walk range.start t.covered t.remaining bs)).mapError .failed
  := by
  induction bs generalizing t with
  | nil =>
    rw [loopExactly, RowPlan.walk, Tally.check]
    split <;> rw [findBy_stop] <;> rfl
  | cons b bs ih =>
    rw [loopExactly, RowPlan.walk]
    by_cases hz : t.remaining = 0
    · rw [if_pos hz, if_pos hz, findBy_stop]
      rfl
    rw [if_neg hz, if_neg hz]
    by_cases hc : b.recordCount = 0
    · rw [if_pos hc, if_pos hc]
      apply ih h
    rw [if_neg hc, if_neg hc]
    have hc : 0 < b.recordCount.toNat := Word.toNat_pos hc
    cases ha : Word.add? t.covered b.recordCount with
    | none =>
      simp only
      rw [findBy_stop]
      rfl
    | some upTo =>
      have hu := (Word.add?_eq_some_iff.mp ha).symm
      simp only
      by_cases hs : upTo ≤ range.start
      · obtain ⟨he, h⟩ := h.skip hc hu (UInt64.le_iff_toNat_le.mp hs)
        rw [if_pos hs, if_pos hs, findBy_skip, he]
        exact ih h
      · have hs' : range.start.toNat < upTo.toNat := by
          rw [UInt64.le_iff_toNat_le] at hs
          omega
        have hm := h.wanted.meets hz hc hu hs'
        rw [if_neg hs, if_neg hs, RowPlan.selection_eq hr h.wanted]
        exact bind_takeExactly hr h hu hm (k := fun t => loopExactly r range t bs)
          (ih (h.select hu hm).2)

end Loop

/-! ### Answers -/

variable {r : Reader τ} {range : RowRange}

/-- The answer has the counts of the plan, also if there are no windows. -/
theorem answerExactly_eq {x y : τ × σ} {ws : List Window}
    (hc : checkRange r.metadata.recordCount range = .ok ())
    (he : (RowPlan.ofRange r.metadata.footer range).ending = .complete)
    (h : readSelections r.path r.config (RowPlan.ofRange r.metadata.footer range).selections x
      = (.ok ws, y)) :
  (answerExactly r range ⟨ws, (RowPlan.ofRange r.metadata.footer range).skipped,
      .ofNat ws.length⟩ : Action (τ × σ) (Failure Error) Answer)
    = answerWindows r range (RowPlan.ofRange r.metadata.footer range) ws
  := by
  rw [answerExactly, answerWindows]
  by_cases hw : ws = []
  · rw [if_pos hw, if_pos hw]
    have hl := limit_eq_zero_of_windows hc he (length_of_readSelections h) hw
    rw [RowPlan.ofRange_eq_stop hl, hl, hw]
    funext z
    rw [Action.bind_apply]
    rcases hz : answerEmpty r z with ⟨e | answer, u⟩
    · rfl
    · have ha := answerEmpty_eq_ok hz
      obtain ⟨windows, work, known?⟩ := answer
      obtain rfl := ha
      rfl
  · rw [if_neg hw, if_neg hw]

/-- A checked read does what a read does. -/
theorem readExactly_apply (hc : checkRange r.metadata.recordCount range = .ok ()) (x : τ × σ) :
  readExactly r range x = (readOpened r range).mapError .failed x
  := by
  have hl : (loopExactly r range ⟨0, range.limit, 0, 0⟩ r.metadata.footer.batches :
        Action (τ × σ) Stop Found)
      = (findBy r range 0 0 (RowPlan.ofRange r.metadata.footer range)).mapError .failed :=
    loopExactly_eq (behind_lt_of_checkRange hc) _ (Tally.right_start range)
  rw [readExactly, readOpened, hl]
  simp only [Action.bind_apply, Action.mapError_apply, Action.ofExcept_apply, findBy]
  rcases hs : readSelections r.path r.config (RowPlan.ofRange r.metadata.footer range).selections x
    with ⟨e | ws, y⟩
  · rfl
  simp only
  cases he : checkEnd r.path range (RowPlan.ofRange r.metadata.footer range).ending with
  | error e => rfl
  | ok _ =>
    simp only [Action.pure_apply, UInt64.zero_add,
      answerExactly_eq hc (checkEnd_eq_ok_iff.mp he) hs]

/-- If a range has been accepted, then a read of it is a read in which every sum and difference of
words is checked, whatever the metadata, the state of the storage and the batches in it are: none
of them is inexact, and from every batch that is decoded some rows are wanted, which start before
its end. -/
theorem readExactly_eq (hc : checkRange r.metadata.recordCount range = .ok ()) :
  (∀ x : τ × σ, readExactly r range x = (readOpened r range).mapError .failed x
    ∧ (readExactly r range x).1 ≠ .error .inexact
    ∧ (readExactly r range x).1 ≠ .error .misplaced)
  ∧ ∀ x ∈ (RowPlan.ofRange r.metadata.footer range).selections,
    x.start < x.summary.recordCount ∧ x.start < x.stop
  := by
  constructor
  · intro x
    use readExactly_apply hc x
    rw [readExactly_apply hc, Action.mapError_fst]
    cases (readOpened r range x).1 with
    | error e => exact ⟨nofun, nofun⟩
    | ok answer => exact ⟨nofun, nofun⟩
  · intro x hx
    obtain ⟨p, hp, rfl⟩ := RowPlan.exists_of_mem_selections (behind_lt_of_checkRange hc) hx
    apply Placed.start_selection_lt (List.mem_filter.mp hp).2

end Reader

/-! ### Metadata with large counts -/

/-- Metadata with more rows than a word counts, of which the sample file has the first two. -/
def Sample.largeMetadata : FileMetadata :=
  .ofFooter "n" ⟨[⟨10, 2⟩, ⟨5, 0⟩, ⟨666, Word.largest - 4⟩, ⟨666, 7⟩]⟩ none

/-- A reader with these metadata whose stream is open and has been left somewhere. -/
def Sample.largeReader : Reader MemoryStream :=
  { (Reader.new "" largeMetadata ⟨false, true⟩ : Reader MemoryStream) with
    state := .opened ⟨.ofBytes numberFile.toBytes.1, 3⟩ }

/-- All rows but the first one are asked for, as many as a word counts; rows are wanted from two
batches before the counts are too large. -/
theorem Reader.readExactly_eq_numbers :
  (RowPlan.ofRange Sample.largeMetadata.footer ⟨1, Word.largest - 1⟩).selections
      = [⟨⟨10, 2⟩, 1, 2⟩, ⟨⟨666, Word.largest - 4⟩, 0, Word.largest - 4⟩]
    ∧ ∀ x : MemoryStream × MemoryStore,
      readExactly Sample.largeReader ⟨1, Word.largest - 1⟩ x
        = (readOpened Sample.largeReader ⟨1, Word.largest - 1⟩).mapError .failed x
  := by
  have hc : checkRange Sample.largeReader.metadata.recordCount ⟨1, Word.largest - 1⟩ = .ok () := by
    decide +kernel
  constructor
  · decide +kernel
  · intro x
    apply ((readExactly_eq hc).1 x).1

end BatchFile
