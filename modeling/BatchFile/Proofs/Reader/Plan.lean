import BatchFile.Proofs.Footer
import BatchFile.Reader.Basic
import Mathlib.Tactic.Use

/-!
# What a row plan selects

The rows of a file are numbered through its batches, so that every batch has a place: the
number of rows before it.  A batch meets a row range if some row of the range lies in it.
The walk over the batches keeps the number of wanted rows equal to the number of rows of the
range that are still ahead (`Wanted`), which `walk_cons` shows for one batch.  A plan that
comes to its end selects exactly the batches that meet the range, and from each of them the
rows that they share (`selections_ofRange`); it does so whenever the counts add up to a word
and reach the end of the range (`ending_ofRange`).
-/

namespace BatchFile

/-- The number of the row behind the last one of a range. -/
def RowRange.behind (r : RowRange) : Nat := r.start.toNat + r.limit.toNat

/-! ### The check of a range -/

/-- A file with so many rows has a range if it ends in the file and starts in it, where an
empty file has the start zero. -/
theorem Reader.checkRange_eq_ok_iff {recordCount : UInt64} {r : RowRange} :
  Reader.checkRange recordCount r = .ok ()
    ↔ (r.start.toNat < recordCount.toNat ∨ (r.start = 0 ∧ recordCount = 0))
      ∧ r.behind ≤ recordCount.toNat
  := by
  rw [Reader.checkRange, RowRange.behind]
  have hn := recordCount.toNat_lt
  have hsize : UInt64.size = 18446744073709551616 := rfl
  by_cases h : (r.start = 0 && recordCount = 0) || r.start < recordCount
  · rw [if_pos h]
    simp only [Bool.or_eq_true, Bool.and_eq_true, decide_eq_true_eq, UInt64.lt_iff_toNat_lt] at h
    cases ha : Word.add? r.start r.limit with
    | none =>
      have ha := Word.add?_eq_none_iff.mp ha
      simp only [reduceCtorEq, false_iff, not_and]
      omega
    | some stop =>
      rw [Word.add?_eq_some_iff.mp ha]
      simp only [UInt64.le_iff_toNat_le]
      split
      · rename_i hs
        simpa [hs] using h.symm
      · rename_i hs
        simp [hs]
  · rw [if_neg h]
    simp only [Bool.or_eq_true, Bool.and_eq_true, decide_eq_true_eq, not_or,
      UInt64.lt_iff_toNat_lt] at h
    simp only [reduceCtorEq, false_iff, not_and]
    intro h'
    rcases h' with h' | h'
    · exact (h.2 h').elim
    · exact (h.1 h').elim

/-! ### Places of batches -/

/-- A batch and the number of rows before it. -/
structure Placed where
  before : Nat
  summary : BatchSummary
deriving DecidableEq, Repr

namespace Placed

/-- The number of rows up to the end of the batch. -/
def behind (p : Placed) : Nat := p.before + p.summary.recordCount.toNat

/-- The first row of the range that can lie in the batch. -/
def first (r : RowRange) (p : Placed) : Nat := max p.before r.start.toNat

/-- The row behind the last one of the range that can lie in the batch. -/
def last (r : RowRange) (p : Placed) : Nat := min p.behind r.behind

/-- Whether some row of the range lies in the batch. -/
def meets (r : RowRange) (p : Placed) : Bool := p.first r < p.last r

theorem meets_iff_lt {r : RowRange} {p : Placed} :
  p.meets r = true ↔ p.first r < p.last r
  := decide_eq_true_iff

theorem meets_mk_iff {r : RowRange} {before : Nat} {b : BatchSummary} :
  (⟨before, b⟩ : Placed).meets r = true
    ↔ max before r.start.toNat < min (before + b.recordCount.toNat) r.behind
  := meets_iff_lt

/-- A batch meets a range if it has some row of the range. -/
theorem meets_iff {r : RowRange} {p : Placed} :
  p.meets r = true
    ↔ ∃ i, (p.before ≤ i ∧ i < p.behind) ∧ r.start.toNat ≤ i ∧ i < r.behind
  := by
  rw [meets_iff_lt, first, last]
  constructor
  · intro h
    use max p.before r.start.toNat
    omega
  · rintro ⟨i, h⟩
    omega

theorem recordCount_pos {r : RowRange} {p : Placed} (h : p.meets r = true) :
  0 < p.summary.recordCount.toNat
  := by
  rw [meets_iff_lt, first, last, behind] at h
  omega

/-- The selection of the rows that the batch and the range share. -/
def selection (r : RowRange) (p : Placed) : Selection where
  summary := p.summary
  start := UInt64.ofNat (p.first r - p.before)
  stop := UInt64.ofNat (p.last r - p.before)

theorem toNat_start_selection (r : RowRange) (p : Placed) :
  (p.selection r).start.toNat = p.first r - p.before
  := by
  have h := r.start.toNat_lt
  apply UInt64.toNat_ofNat_of_lt'
  simp only [first, UInt64.size]
  omega

theorem toNat_stop_selection (r : RowRange) (p : Placed) :
  (p.selection r).stop.toNat = p.last r - p.before
  := by
  have h := p.summary.recordCount.toNat_lt
  apply UInt64.toNat_ofNat_of_lt'
  simp only [last, behind, UInt64.size]
  omega

/-- A selection has as many rows as the batch and the range share. -/
theorem toNat_stop_sub_start_selection {r : RowRange} {p : Placed} (h : p.meets r = true) :
  ((p.selection r).stop - (p.selection r).start).toNat = p.last r - p.first r
  := by
  have h := meets_iff_lt.mp h
  have hb : p.before ≤ p.first r := Nat.le_max_left _ _
  rw [UInt64.toNat_sub_of_le, toNat_start_selection, toNat_stop_selection]
  · omega
  · rw [UInt64.le_iff_toNat_le, toNat_start_selection, toNat_stop_selection]
    omega

end Placed

/-- The batches at their places, `before` rows coming before the first of them. -/
def placedFrom (before : Nat) : List BatchSummary → List Placed
  | [] => []
  | b :: bs => ⟨before, b⟩ :: placedFrom (before + b.recordCount.toNat) bs

/-- The batches of a footer at their places. -/
def FileFooter.placed (f : FileFooter) : List Placed := placedFrom 0 f.batches

/-- The batches of a footer that meet a range, in order. -/
def FileFooter.meeting (f : FileFooter) (r : RowRange) : List Placed :=
  f.placed.filter fun p => p.meets r

theorem before_le_of_mem {before : Nat} {bs : List BatchSummary} {p : Placed}
    (h : p ∈ placedFrom before bs) :
  before ≤ p.before
  := by
  induction bs generalizing before with
  | nil => cases h
  | cons b bs ih =>
    rcases List.mem_cons.mp h with rfl | h
    · apply Nat.le_refl
    · have := ih h
      omega

/-- No batch behind a range meets it. -/
theorem filter_meets_eq_nil {r : RowRange} {before : Nat} {bs : List BatchSummary}
    (h : r.behind ≤ max r.start.toNat before) :
  ((placedFrom before bs).filter fun p => p.meets r) = []
  := by
  apply List.filter_eq_nil_iff.mpr
  intro p hp
  have hb := before_le_of_mem hp
  rw [Placed.meets_iff_lt, Placed.first, Placed.last]
  omega

namespace RowPlan

/-! ### One step of the walk -/

/-- The wanted rows are those of the range that are still ahead. -/
def Wanted (r : RowRange) (covered remaining : UInt64) : Prop :=
  remaining.toNat = r.behind - max r.start.toNat covered.toNat

theorem wanted_start (r : RowRange) :
  Wanted r 0 r.limit
  := by
  simp [Wanted, RowRange.behind]

/-- No row is wanted just if the range has been covered. -/
theorem Wanted.eq_zero_iff {r : RowRange} {covered remaining : UInt64}
    (hw : Wanted r covered remaining) :
  remaining = 0 ↔ r.behind ≤ max r.start.toNat covered.toNat
  := by
  rw [← Word.toNat_eq_zero_iff, hw, Nat.sub_eq_zero_iff_le]

/-- The selection of a batch takes the rows that it shares with the range. -/
theorem selection_eq {r : RowRange} {covered remaining : UInt64} {b : BatchSummary}
    (hr : r.behind < UInt64.size) (hw : Wanted r covered remaining) :
  selection r.start covered remaining b = (⟨covered.toNat, b⟩ : Placed).selection r
  := by
  have hs : (Word.subCapped r.start covered).toNat = r.start.toNat - covered.toNat :=
    Word.toNat_subCapped _ _
  have hsum : (Word.subCapped r.start covered + remaining).toNat
      = r.start.toNat - covered.toNat + remaining.toNat := by
    rw [UInt64.toNat_add, hs, Nat.mod_eq_of_lt]
    unfold Wanted RowRange.behind at *
    simp only [UInt64.size] at hr
    omega
  have hmin : (min b.recordCount (Word.subCapped r.start covered + remaining)).toNat
      = min b.recordCount.toNat (r.start.toNat - covered.toNat + remaining.toNat) := by
    rw [← hsum]
    simp only [min, UInt64.le_iff_toNat_le]
    split <;> rfl
  have hstart := (⟨covered.toNat, b⟩ : Placed).toNat_start_selection r
  have hstop := (⟨covered.toNat, b⟩ : Placed).toNat_stop_selection r
  rw [Wanted, RowRange.behind] at hw
  simp only [Placed.first, Placed.last, Placed.behind, RowRange.behind] at hstart hstop
  unfold selection Placed.selection at *
  simp only [Selection.mk.injEq, true_and]
  constructor
  · apply UInt64.toNat_inj.mp
    rw [hs, hstart]
    omega
  · apply UInt64.toNat_inj.mp
    rw [hmin, hstop]
    omega

/-- Skipping a batch before the range keeps the wanted rows right. -/
theorem Wanted.skip {r : RowRange} {covered remaining upTo : UInt64}
    (hw : Wanted r covered remaining) (hc : covered.toNat ≤ upTo.toNat)
    (h : upTo.toNat ≤ r.start.toNat) :
  Wanted r upTo remaining
  := by
  unfold Wanted at *
  omega

/-- While rows are wanted, a batch that ends behind the start meets the range. -/
theorem Wanted.meets {r : RowRange} {covered remaining upTo : UInt64} {b : BatchSummary}
    (hw : Wanted r covered remaining) (hn : remaining ≠ 0) (hc : 0 < b.recordCount.toNat)
    (hu : upTo.toNat = covered.toNat + b.recordCount.toNat) (h : r.start.toNat < upTo.toNat) :
  (⟨covered.toNat, b⟩ : Placed).meets r = true
  := by
  have hp : 0 < remaining.toNat := Word.toNat_pos hn
  rw [Wanted] at hw
  rw [Placed.meets_mk_iff]
  omega

/-- Taking the rows that a batch shares with the range keeps the wanted rows right. -/
theorem Wanted.select {r : RowRange} {covered remaining upTo : UInt64} {b : BatchSummary}
    (hw : Wanted r covered remaining)
    (hu : upTo.toNat = covered.toNat + b.recordCount.toNat)
    (hm : (⟨covered.toNat, b⟩ : Placed).meets r = true) :
  Wanted r upTo (remaining - (((⟨covered.toNat, b⟩ : Placed).selection r).stop
    - ((⟨covered.toNat, b⟩ : Placed).selection r).start))
  := by
  have hd := Placed.toNat_stop_sub_start_selection hm
  rw [Placed.meets_mk_iff] at hm
  unfold Wanted Placed.first Placed.last Placed.behind at *
  simp only at hd
  rw [UInt64.toNat_sub_of_le, hd]
  · omega
  · rw [UInt64.le_iff_toNat_le, hd]
    omega

/-- What the walk does with the next batch: it stops if no row is wanted any more or the
batch makes the rows too many; it passes a batch without rows or before the range; and it
selects a batch that meets the range. -/
inductive WalkStep (r : RowRange) (covered remaining : UInt64) (b : BatchSummary)
    (bs : List BatchSummary) : RowPlan → Prop where
  | done (h : remaining = 0) :
    WalkStep r covered remaining b bs (stop .complete)
  | empty (hw : remaining ≠ 0) (h : b.recordCount.toNat = 0) :
    WalkStep r covered remaining b bs (walk r.start covered remaining bs)
  | overflow (hw : remaining ≠ 0) (hc : 0 < b.recordCount.toNat)
      (h : UInt64.size ≤ covered.toNat + b.recordCount.toNat) :
    WalkStep r covered remaining b bs (stop (.tooManyRows b.offset))
  | skip (hw : remaining ≠ 0) (hc : 0 < b.recordCount.toNat) (upTo : UInt64)
      (hu : upTo.toNat = covered.toNat + b.recordCount.toNat) (h : upTo.toNat ≤ r.start.toNat)
      (hn : Wanted r upTo remaining) :
    WalkStep r covered remaining b bs (walk r.start upTo remaining bs).skip
  | select (hw : remaining ≠ 0) (upTo rest : UInt64)
      (hu : upTo.toNat = covered.toNat + b.recordCount.toNat)
      (h : (⟨covered.toNat, b⟩ : Placed).meets r = true) (hn : Wanted r upTo rest) :
    WalkStep r covered remaining b bs
      ((walk r.start upTo rest bs).select ((⟨covered.toNat, b⟩ : Placed).selection r))

/-- One step of the walk, which keeps the wanted rows right. -/
theorem walk_cons {r : RowRange} {covered remaining : UInt64} (b : BatchSummary)
    (bs : List BatchSummary) (hr : r.behind < UInt64.size) (hw : Wanted r covered remaining) :
  WalkStep r covered remaining b bs (walk r.start covered remaining (b :: bs))
  := by
  rw [walk]
  split
  · rename_i h
    exact .done h
  rename_i hn
  split
  · rename_i h
    exact .empty hn (by rw [h]; rfl)
  rename_i hc
  have hpos : 0 < b.recordCount.toNat := Word.toNat_pos hc
  cases ha : Word.add? covered b.recordCount with
  | none => exact .overflow hn hpos (Word.add?_eq_none_iff.mp ha)
  | some upTo =>
    have hu : upTo.toNat = covered.toNat + b.recordCount.toNat :=
      (Word.add?_eq_some_iff.mp ha).symm
    simp only
    split
    · rename_i h
      have h := UInt64.le_iff_toNat_le.mp h
      exact .skip hn hpos upTo hu h (hw.skip (by omega) h)
    · rename_i h
      have h : r.start.toNat < upTo.toNat := by
        rw [UInt64.le_iff_toNat_le] at h
        omega
      rw [selection_eq hr hw]
      have hm := hw.meets hn hpos hu h
      exact .select hn upTo _ hu hm (hw.select hu hm)

/-! ### The whole walk -/

/-- A walk that comes to its end selects from each batch that meets the range the rows that
they share. -/
theorem selections_walk {r : RowRange} (bs : List BatchSummary) {covered remaining : UInt64}
    (hr : r.behind < UInt64.size) (hw : Wanted r covered remaining)
    (he : (walk r.start covered remaining bs).ending = .complete) :
  (walk r.start covered remaining bs).selections
    = ((placedFrom covered.toNat bs).filter fun p => p.meets r).map fun p => p.selection r
  := by
  induction bs generalizing covered remaining with
  | nil =>
    rw [walk]
    split <;> rfl
  | cons b bs ih =>
    have hs := walk_cons b bs hr hw
    generalize walk r.start covered remaining (b :: bs) = plan at hs he
    cases hs with
    | done h =>
      rw [filter_meets_eq_nil (hw.eq_zero_iff.mp h)]
      rfl
    | empty _ h =>
      have hm : (⟨covered.toNat, b⟩ : Placed).meets r = false := by
        apply Bool.eq_false_iff.mpr
        intro hm
        rw [Placed.meets_mk_iff] at hm
        omega
      rw [placedFrom, List.filter_cons_of_neg (by simp [hm]), h, Nat.add_zero]
      apply ih hw he
    | overflow _ _ _ => cases he
    | skip _ _ upTo hu h hn =>
      have hm : (⟨covered.toNat, b⟩ : Placed).meets r = false := by
        apply Bool.eq_false_iff.mpr
        intro hm
        rw [Placed.meets_mk_iff] at hm
        omega
      rw [placedFrom, List.filter_cons_of_neg (by simp [hm]), ← hu]
      apply ih hn he
    | select _ upTo rest hu h hn =>
      rw [placedFrom, List.filter_cons_of_pos h, ← hu, List.map_cons, ← ih hn he]
      rfl

/-- However a walk ends, it selects only from batches that meet the range. -/
theorem exists_of_mem_selections_walk {r : RowRange} (bs : List BatchSummary)
    {covered remaining : UInt64} (hr : r.behind < UInt64.size) (hw : Wanted r covered remaining)
    {x : Selection} (hx : x ∈ (walk r.start covered remaining bs).selections) :
  ∃ p ∈ (placedFrom covered.toNat bs).filter fun p => p.meets r, x = p.selection r
  := by
  induction bs generalizing covered remaining with
  | nil =>
    rw [walk] at hx
    split at hx <;> cases hx
  | cons b bs ih =>
    have hs := walk_cons b bs hr hw
    generalize walk r.start covered remaining (b :: bs) = plan at hs hx
    -- what is selected behind the first batch is selected from the batches there
    have hlater : ∀ {covered' remaining'} (_ : Wanted r covered' remaining')
        (_ : x ∈ (walk r.start covered' remaining' bs).selections)
        (_ : covered'.toNat = covered.toNat + b.recordCount.toNat),
        ∃ p ∈ (placedFrom covered.toNat (b :: bs)).filter fun p => p.meets r,
          x = p.selection r := by
      intro covered' remaining' hw hx hu
      obtain ⟨p, hp, he⟩ := ih hw hx
      rw [hu] at hp
      use p, ?_, he
      exact List.mem_filter.mpr
        ⟨List.mem_cons_of_mem _ (List.mem_filter.mp hp).1, (List.mem_filter.mp hp).2⟩
    cases hs with
    | done _ => cases hx
    | empty _ h => apply hlater hw hx (by omega)
    | overflow _ _ _ => cases hx
    | skip _ _ upTo hu _ hn => apply hlater hn hx hu
    | select _ upTo rest hu h hn =>
      rcases List.mem_cons.mp hx with rfl | hx
      · exact ⟨_, List.mem_filter.mpr ⟨List.mem_cons_self, h⟩, rfl⟩
      · apply hlater hn hx hu

/-- A walk comes to its end if the counts add up to a word and reach the end of the range. -/
theorem ending_walk {r : RowRange} (bs : List BatchSummary) {covered remaining : UInt64}
    (hw : Wanted r covered remaining) (ht : covered.toNat + rowTotal bs < UInt64.size)
    (hb : r.behind ≤ covered.toNat + rowTotal bs) :
  (walk r.start covered remaining bs).ending = .complete
  := by
  induction bs generalizing covered remaining with
  | nil =>
    have h : remaining = 0 := by
      apply hw.eq_zero_iff.mpr
      rw [rowTotal] at hb
      omega
    rw [walk, if_pos h]
    rfl
  | cons b bs ih =>
    have hs := walk_cons b bs (Nat.lt_of_le_of_lt hb ht) hw
    rw [rowTotal] at ht hb
    generalize walk r.start covered remaining (b :: bs) = plan at hs
    cases hs with
    | done _ => rfl
    | empty _ h => apply ih hw (by omega) (by omega)
    | overflow _ _ h => omega
    | skip _ _ upTo hu _ hn => apply ih hn (by omega) (by omega)
    | select _ upTo rest hu _ hn => apply ih hn (by omega) (by omega)

/-- A walk that comes to its end has found all wanted rows. -/
theorem behind_le_of_complete {r : RowRange} (bs : List BatchSummary)
    {covered remaining : UInt64} (hr : r.behind < UInt64.size) (hw : Wanted r covered remaining)
    (he : (walk r.start covered remaining bs).ending = .complete) :
  r.behind ≤ max r.start.toNat (covered.toNat + rowTotal bs)
  := by
  induction bs generalizing covered remaining with
  | nil =>
    rw [walk] at he
    split at he
    · rename_i h
      apply hw.eq_zero_iff.mp h
    · cases he
  | cons b bs ih =>
    have hs := walk_cons b bs hr hw
    rw [rowTotal]
    generalize walk r.start covered remaining (b :: bs) = plan at hs he
    cases hs with
    | done h =>
      have := hw.eq_zero_iff.mp h
      omega
    | empty _ h =>
      have := ih hw he
      omega
    | overflow _ _ _ => cases he
    | skip _ _ upTo hu _ hn =>
      have := ih hn he
      omega
    | select _ upTo rest hu _ hn =>
      have := ih hn he
      omega

/-! ### The plan of a range -/

variable {f : FileFooter} {r : RowRange}

/-- A plan that comes to its end selects from each batch that meets the range the rows that
they share. -/
theorem selections_ofRange (hr : r.behind < UInt64.size)
    (he : (ofRange f r).ending = .complete) :
  (ofRange f r).selections = (f.meeting r).map fun p => p.selection r
  := selections_walk f.batches hr (wanted_start r) he

/-- However a plan ends, it selects only from batches that meet the range. -/
theorem exists_of_mem_selections (hr : r.behind < UInt64.size) {x : Selection}
    (hx : x ∈ (ofRange f r).selections) :
  ∃ p ∈ f.meeting r, x = p.selection r
  := exists_of_mem_selections_walk f.batches hr (wanted_start r) hx

/-- A plan comes to its end if the counts add up to a word and reach the end of the range. -/
theorem ending_ofRange (ht : rowTotal f.batches < UInt64.size)
    (hb : r.behind ≤ rowTotal f.batches) :
  (ofRange f r).ending = .complete
  := by
  apply ending_walk f.batches (wanted_start r)
  · simpa using ht
  · simpa using hb

theorem behind_le_rowTotal (hr : r.behind < UInt64.size) (hl : r.limit ≠ 0)
    (he : (ofRange f r).ending = .complete) :
  r.behind ≤ rowTotal f.batches
  := by
  have hp : 0 < r.limit.toNat := Word.toNat_pos hl
  have h := behind_le_of_complete f.batches hr (wanted_start r) he
  rw [UInt64.toNat_zero, Nat.zero_add] at h
  unfold RowRange.behind at *
  omega

/-- Without wanted rows there is nothing to do. -/
theorem ofRange_eq_stop (hl : r.limit = 0) :
  ofRange f r = stop .complete
  := by
  rw [ofRange, hl]
  cases f.batches with
  | nil => rw [walk, if_pos rfl]
  | cons b bs => rw [walk, if_pos rfl]

theorem ofRange_of_limit_zero (hl : r.limit = 0) :
  (ofRange f r).selections = [] ∧ (ofRange f r).ending = .complete
  := by
  rw [ofRange_eq_stop hl]
  exact ⟨rfl, rfl⟩

end RowPlan

/-! ### The rows that are shared -/

/-- The number of rows that the given batches share with a range. -/
def sharedRows (r : RowRange) : List Placed → Nat
  | [] => 0
  | p :: ps => p.last r - p.first r + sharedRows r ps

/-- The batches that meet a range share all rows of the range that lie in the file. -/
theorem sharedRows_filter_meets (r : RowRange) (bs : List BatchSummary) (before : Nat) :
  sharedRows r ((placedFrom before bs).filter fun p => p.meets r)
    = min (before + rowTotal bs) r.behind - max before r.start.toNat
  := by
  induction bs generalizing before with
  | nil =>
    have h : r.start.toNat ≤ r.behind := Nat.le_add_right _ _
    simp only [placedFrom, List.filter_nil, sharedRows, rowTotal]
    omega
  | cons b bs ih =>
    have hs : r.start.toNat ≤ r.behind := Nat.le_add_right _ _
    rw [placedFrom, rowTotal, List.filter_cons]
    split
    · rename_i hm
      rw [Placed.meets_mk_iff] at hm
      rw [sharedRows, ih, Placed.first, Placed.last, Placed.behind]
      simp only
      omega
    · rename_i hm
      rw [Placed.meets_mk_iff] at hm
      rw [ih]
      omega

/-- A plan that comes to its end finds as many rows as the range has. -/
theorem sharedRows_meeting {f : FileFooter} {r : RowRange} (hr : r.behind < UInt64.size)
    (he : (RowPlan.ofRange f r).ending = .complete) :
  sharedRows r (f.meeting r) = r.limit.toNat
  := by
  have hs := sharedRows_filter_meets r f.batches 0
  rw [FileFooter.meeting, FileFooter.placed]
  rw [hs]
  unfold RowRange.behind at *
  by_cases hl : r.limit = 0
  · rw [hl, UInt64.toNat_zero]
    omega
  · have hb := RowPlan.behind_le_rowTotal hr hl he
    rw [RowRange.behind] at hb
    omega

/-- A plan for some rows that comes to its end selects some batch. -/
theorem RowPlan.selections_ne_nil {f : FileFooter} {r : RowRange} (hr : r.behind < UInt64.size)
    (hl : r.limit ≠ 0) (he : (ofRange f r).ending = .complete) :
  (ofRange f r).selections ≠ []
  := by
  intro hn
  rw [selections_ofRange hr he, List.map_eq_nil_iff] at hn
  have hs := sharedRows_meeting hr he
  rw [hn] at hs
  apply hl
  apply Word.toNat_eq_zero_iff.mp
  rw [← hs]
  rfl

/-- The rows that the batches share with a range, one batch after another, are the rows of
the range. -/
theorem flatMap_shared {α : Type} {rows : BatchSummary → List α} (r : RowRange)
    (bs : List BatchSummary) (before : Nat)
    (h : ∀ b ∈ bs, (rows b).length = b.recordCount.toNat) :
  (((placedFrom before bs).filter fun p => p.meets r).flatMap fun p =>
      ((rows p.summary).drop (p.first r - p.before)).take (p.last r - p.first r))
    = ((bs.flatMap rows).drop (r.start.toNat - before)).take
        (r.behind - max before r.start.toNat)
  := by
  induction bs generalizing before with
  | nil => simp [placedFrom]
  | cons b bs ih =>
    have hb := h b List.mem_cons_self
    have ih := ih (before + b.recordCount.toNat) fun x hx => h x (List.mem_cons_of_mem b hx)
    -- the range of the whole splits at the end of the first batch
    rw [List.flatMap_cons, List.drop_append, List.take_append, List.length_drop, hb,
      show r.start.toNat - before - b.recordCount.toNat
        = r.start.toNat - (before + b.recordCount.toNat) by omega,
      show r.behind - max before r.start.toNat
          - (b.recordCount.toNat - (r.start.toNat - before))
        = r.behind - max (before + b.recordCount.toNat) r.start.toNat by omega,
      ← ih, placedFrom, List.filter_cons]
    split
    · rw [List.flatMap_cons, Placed.first, Placed.last, Placed.behind]
      congr 1
      rw [show max before r.start.toNat - before = r.start.toNat - before by omega]
      apply List.take_eq_take_iff.mpr
      rw [List.length_drop, hb]
      simp only
      omega
    · rename_i hm
      rw [Placed.meets_mk_iff] at hm
      rw [List.self_eq_append_left]
      apply List.take_eq_nil_iff.mpr
      rw [List.drop_eq_nil_iff, hb]
      omega

end BatchFile
