import BatchFile.Proofs.Ipc.Extent
import BatchFile.Proofs.Reader.Correct
import BatchFile.Proofs.Reader.Remembers

/-!
# Which bytes decide about a read

Reading rows without a check of the framing looks at nothing but the messages of the batches
that meet the range: a read that succeeds gives the same windows over all contents with the same
messages there (`read_of_sameExtents`).  If the contents are cut off before these messages end,
the read fails, and all reads whose batches end before the cut go on as if nothing were missing
(`read_of_cutOff`).
-/

namespace BatchFile

variable {config config' : ReaderConfig} {c c' : Bytes} {range : RowRange}

/-- A window is cut just as well from other contents that have the messages of its batch. -/
theorem Placed.Cut.of_sameExtent [Ipc.Decoder] {p : Placed} {w : Window}
    (h : p.Cut config c range w) (hs : SameExtent c c' p.summary.offset)
    (hv : config'.verifyRowCounts = config.verifyRowCounts) :
  p.Cut config' c' range w
  := by
  have hb := batchIn_congr hs (batchEnd_le_of_batchIn h.batch)
  exact ⟨hb.trans h.batch, h.start, h.stop, h.start_lt_stop, h.stop_le_rowCount,
    fun h' => h.rowCount (hv ▸ h')⟩

namespace Reader

open Storage

variable {σ τ : Type} [Storage σ τ] {V : View σ τ} {path : Path} {r r' : Reader τ} {s s' : σ}

theorem checkedIn_of_unchecked (hv : config.validateFraming = false) :
  checkedIn path config c = .ok ()
  := by
  rw [checkedIn, hv]
  rfl

/-- A reader that does not check the framing is over whatever it holds. -/
theorem over_of_unchecked (hs : V.Sound s) (hh : Holds V c r s)
    (hv : r.config.validateFraming = false) :
  Over V c r s
  := ⟨hs, hh, fun _ => checkedIn_of_unchecked hv⟩

/-- Two readers have been told the same about their file. -/
structure Alike (r r' : Reader τ) : Prop where
  path : r'.path = r.path
  metadata : r'.metadata = r.metadata
  config : r'.config = r.config

theorem Alike.trans {r'' : Reader τ} (h : Alike r r') (h' : Alike r' r'') :
  Alike r r''
  := ⟨h'.path.trans h.path, h'.metadata.trans h.metadata, h'.config.trans h.config⟩

theorem cut_eq_error {x : Selection} {batch : RecordBatch} {e : Failure Error}
    (h : cut path config x batch = .error e) :
  ∃ d, e = .dataFormat path d
  := by
  rw [cut] at h
  split at h
  · cases h
    exact ⟨_, rfl⟩
  · split at h
    · cases h
    · cases h
      exact ⟨_, rfl⟩

/-! ### The same messages in other contents -/

variable [Ipc.Decoder]

theorem forall₂_cut_of_sameExtents {ps : List Placed} {ws : List Window}
    (h : List.Forall₂ (Placed.Cut config c range) ps ws)
    (hs : ∀ p ∈ ps, SameExtent c c' p.summary.offset)
    (hv : config'.verifyRowCounts = config.verifyRowCounts) :
  List.Forall₂ (Placed.Cut config' c' range) ps ws
  := by
  induction h with
  | nil => exact .nil
  | cons h _ ih =>
    apply List.Forall₂.cons
    · apply h.of_sameExtent (hs _ List.mem_cons_self) hv
    · apply ih fun p hp => hs p (List.mem_cons_of_mem _ hp)

/-- If some rows can be read from contents, then a new reader that does not check the framing
reads the same windows from all contents which have the same bytes where the batches lie that
meet the range. -/
theorem read_of_sameExtents {base : Path} {ws : List Window} (hh : Holds V c r s)
    (hl : range.limit ≠ 0) (hr : (read range (r, s)).1 = .ok ws)
    (hv : config.validateFraming = false)
    (hn : config.verifyRowCounts = r.config.verifyRowCounts) (hs : V.Sound s')
    (hf : V.file? (Path.join base r.metadata.path) s' = some c')
    (he : ∀ p ∈ r.metadata.footer.meeting range, SameExtent c c' p.summary.offset) :
  (read range (Reader.new base r.metadata config, s')).1 = .ok ws
  := by
  obtain ⟨hc, hend, -⟩ := gives_of_read hh hl (Prod.ext hr rfl)
  have hw := forall₂_cut_of_sameExtents (forall₂_cut_of_read hh hl hr) he hn
  have ho : Over V c' (Reader.new base r.metadata config : Reader τ) s' := ⟨hs, hf, nofun⟩
  have hk : checkedIn (Path.join base r.metadata.path) config c' = .ok () :=
    checkedIn_of_unchecked hv
  have hi : readIn V (Path.join base r.metadata.path) config r.metadata none c' range = .ok ws :=
    readIn_of_cut (refusal?_of_over ho hk) hc hl hend hw
  rw [read_of_over ho fun h0 => (hl h0).elim]
  simp only [Reader.new, hc, hk, hi]
  rfl

/-! ### Contents with the same batches -/

theorem windowsIn_congr {xs : List Selection}
    (h : ∀ x ∈ xs, batchIn c' x.summary.offset = batchIn c x.summary.offset) :
  windowsIn V path config c' xs = windowsIn V path config c xs
  := by
  induction xs with
  | nil => rfl
  | cons x xs ih =>
    rw [windowsIn, windowsIn, decodeIn, decodeIn, h x List.mem_cons_self,
      ih fun y hy => h y (List.mem_cons_of_mem x hy)]

theorem alike_read (range : RowRange) (r : Reader τ) (s : σ) :
  Alike r (read range (r, s)).2.1
  := by
  obtain ⟨hp, hm, hc⟩ := read_fields range r s
  exact ⟨hp, hm, hc⟩

/-- Readers that have been told the same read the same, if the batches that meet the range are
the same in the contents that they hold and no schema has to be found. -/
theorem read_congr (ha : Alike r r') (hv : r.config.validateFraming = false)
    (ho : Over V c r s) (ho' : Over V c' r' s')
    (hb : ∀ p ∈ r.metadata.footer.meeting range,
      batchIn c' p.summary.offset = batchIn c p.summary.offset)
    (hm : range.limit = 0 → r.metadata.schema?.isSome = true) :
  (read range (r', s')).1 = (read range (r, s)).1
  := by
  have hf : range.limit = 0 → Consults V c r s := by
    intro hl hn
    have hm := hm hl
    rw [hn] at hm
    cases hm
  have hf' : range.limit = 0 → Consults V c' r' s' := by
    intro hl hn
    have hm := hm hl
    rw [← ha.metadata, hn] at hm
    cases hm
  rw [read_of_over ho hf, read_of_over ho' hf', ha.path, ha.metadata, ha.config]
  rw [checkedIn_of_unchecked hv, checkedIn_of_unchecked hv]
  cases hc : checkRange r.metadata.recordCount range with
  | error e => rfl
  | ok _ =>
    have hw : windowsIn V r.path r.config c' (RowPlan.ofRange r.metadata.footer range).selections
        = windowsIn V r.path r.config c
            (RowPlan.ofRange r.metadata.footer range).selections := by
      apply windowsIn_congr
      intro x hx
      obtain ⟨p, hp, rfl⟩ := RowPlan.exists_of_mem_selections (behind_lt_of_checkRange hc) hx
      apply hb p hp
    have hi : readIn V r.path r.config r.metadata r'.footerSchema? c' range
        = readIn V r.path r.config r.metadata r.footerSchema? c range := by
      apply readIn_congr hc hw
      intro hl
      obtain ⟨schema, hs⟩ := Option.isSome_iff_exists.mp (hm hl)
      rw [hs]
      rfl
    rw [hi]

/-! ### Contents that are cut off -/

/-- If one of the batches is not found, then there are no windows, and the contents are blamed. -/
theorem windowsIn_eq_error {xs : List Selection} {x : Selection}
    (hr : ∀ y ∈ xs, V.refusal? y.summary.offset = none) (hx : x ∈ xs)
    (hn : ∀ batch, batchIn c x.summary.offset ≠ .ok batch) :
  ∃ d, windowsIn V path config c xs = .error (.dataFormat path d)
  := by
  induction xs with
  | nil => cases hx
  | cons y ys ih =>
    rw [windowsIn, decodeIn, hr y List.mem_cons_self]
    simp only
    cases hd : batchIn c y.summary.offset with
    | error d => exact ⟨d, rfl⟩
    | ok batch =>
      have hx : x ∈ ys := by
        apply (List.mem_cons.mp hx).resolve_left
        rintro rfl
        apply hn batch hd
      simp only [Except.mapError, bind, Except.bind]
      cases hc : cut path config y batch with
      | error e =>
        obtain ⟨d, rfl⟩ := cut_eq_error hc
        exact ⟨d, rfl⟩
      | ok w =>
        obtain ⟨d, hw⟩ := ih (fun z hz => hr z (List.mem_cons_of_mem y hz)) hx
        rw [hw]
        exact ⟨d, rfl⟩

/-- The batches that meet the range of a read are found if it succeeds. -/
theorem exists_batchIn_of_read {ws : List Window} (hh : Holds V c r s) (hl : range.limit ≠ 0)
    (hr : (read range (r, s)).1 = .ok ws) {q : Placed}
    (hq : q ∈ r.metadata.footer.meeting range) :
  ∃ batch, batchIn c q.summary.offset = .ok batch
  := by
  obtain ⟨w, -, hw⟩ := exists_of_mem_left (forall₂_cut_of_read hh hl hr) hq
  exact ⟨w.batch, hw.batch⟩

/-- A read fails and blames the contents if one of the batches that meet its range is not
found. -/
theorem read_eq_error_of_batchIn (ho : Over V c r s) (hv : r.config.validateFraming = false)
    (hc : checkRange r.metadata.recordCount range = .ok ()) (hl : range.limit ≠ 0)
    (he : (RowPlan.ofRange r.metadata.footer range).ending = .complete)
    (hf : ∀ q ∈ r.metadata.footer.meeting range, V.refusal? q.summary.offset = none)
    {q : Placed} (hq : q ∈ r.metadata.footer.meeting range)
    (hn : ∀ batch, batchIn c q.summary.offset ≠ .ok batch) :
  ∃ d, (read range (r, s)).1 = .error (.dataFormat r.path d)
  := by
  have hs := RowPlan.selections_ofRange (behind_lt_of_checkRange hc) he
  obtain ⟨d, hd⟩ : ∃ d, windowsIn V r.path r.config c
      (RowPlan.ofRange r.metadata.footer range).selections = .error (.dataFormat r.path d) := by
    rw [hs]
    have hx : q.selection range
        ∈ (r.metadata.footer.meeting range).map fun p => p.selection range :=
      List.mem_map_of_mem hq
    refine windowsIn_eq_error ?_ hx hn
    intro x hx
    obtain ⟨y, hy, rfl⟩ := List.mem_map.mp hx
    apply hf y hy
  use d
  rw [read_of_over ho fun h0 => (hl h0).elim, hc, checkedIn_of_unchecked hv, readIn]
  simp only [hd]
  rfl

/-- The reader and the storage after reads of the given ranges. -/
def afterReads (ranges : List RowRange) (x : Reader τ × σ) : Reader τ × σ :=
  ranges.foldl (fun x range => (read range x).2) x

theorem alike_afterReads (ranges : List RowRange) (x : Reader τ × σ) :
  Alike x.1 (afterReads ranges x).1
  := by
  induction ranges generalizing x with
  | nil => exact ⟨rfl, rfl, rfl⟩
  | cons range ranges ih => apply (alike_read range x.1 x.2).trans (ih _)

theorem over_afterReads (ranges : List RowRange) {x : Reader τ × σ} (h : Over V c x.1 x.2) :
  Over V c (afterReads ranges x).1 (afterReads ranges x).2
  := by
  induction ranges generalizing x with
  | nil => apply h
  | cons range ranges ih => apply ih (over_read range h)

/-- While the file is unchanged, a read that fails makes no difference to the next one. -/
theorem read_after_error {e : Failure Error} (ho : Over V c r s) (hf : V.file? r.path s = some c)
    (he : (read range (r, s)).1 = .error e) (range' : RowRange) :
  (read range' (read range (r, s)).2).1 = (read range' (r, s)).1
  := by
  have ho' := over_read range ho
  have ha := alike_read range r s
  have hn := (read_fields_of_error he).2
  have hf' : Consults V c (read range (r, s)).2.1 (read range (r, s)).2.2 := by
    intro _ _
    rw [ha.path, (kept_read V range r s).file, hf]
  have h := read_of_over ho fun (_ : range'.limit = 0) _ _ => hf
  have h' := read_of_over ho' fun (_ : range'.limit = 0) => hf'
  rw [ha.path, ha.metadata, ha.config, hn] at h'
  rw [h, ← h']

/-- Let rows be read from contents without a check of the framing.  If the contents are cut off
before the messages of a batch end that meets the range, then the read fails, blames the contents
and does not count.  Whatever is read afterwards, a read whose batches end before the cut gives
what it gives over the whole contents, unless it is a read without rows that has to find a
schema. -/
theorem read_of_cutOff {p : Nat} {q : Placed} {ws : List Window} (hs : V.Sound s)
    (hh : Holds V c r s) (hv : r.config.validateFraming = false) (hl : range.limit ≠ 0)
    (hr : (read range (r, s)).1 = .ok ws) (hq : q ∈ r.metadata.footer.meeting range)
    (hp : p < batchEnd c q.summary.offset) (ha : Alike r r') (hs' : V.Sound s')
    (hh' : Holds V (c.take p) r' s') :
  (∃ d, (read range (r', s')).1 = .error (.dataFormat r.path d))
  ∧ (read range (r', s')).2.1.stats = r'.stats
  ∧ ∀ (ranges : List RowRange) (range' : RowRange),
    (∀ q ∈ r.metadata.footer.meeting range', batchEnd c q.summary.offset ≤ p) →
    (range'.limit = 0 → r.metadata.schema?.isSome = true) →
    (read range' (afterReads (range :: ranges) (r', s'))).1 = (read range' (r, s)).1
  := by
  have ho := over_of_unchecked hs hh hv
  have ho' := over_of_unchecked hs' hh' (by rwa [ha.config])
  obtain ⟨hc, he, -⟩ := gives_of_read hh hl (Prod.ext hr rfl)
  obtain ⟨d, hd⟩ : ∃ d, (read range (r', s')).1 = .error (.dataFormat r'.path d) := by
    rw [← ha.metadata] at hc he hq
    apply read_eq_error_of_batchIn ho' (by rwa [ha.config]) hc hl he _ hq (batchIn_take_of_lt hp)
    intro y hy
    rw [ha.metadata] at hy
    obtain ⟨batch, hb⟩ := exists_batchIn_of_read hh hl hr hy
    apply refusal?_of_over ho (checkedIn_of_unchecked hv)
    apply Nat.le_of_lt (offset_lt_of_batchIn hb)
  rw [← ha.path]
  refine ⟨⟨d, hd⟩, (read_fields_of_error hd).1, ?_⟩
  intro ranges range' hb hm
  apply read_congr (ha.trans (alike_afterReads (range :: ranges) (r', s'))) hv ho
    (over_afterReads (range :: ranges) ho') _ hm
  intro y hy
  apply batchIn_take_of_le (hb y hy)
  obtain ⟨batch, hq⟩ := exists_batchIn_of_read hh hl hr hq
  exact Nat.le_of_lt (Nat.lt_of_lt_of_le hp (batchEnd_le_of_batchIn hq))

end Reader

/-! ### Damaged files -/

namespace Sample

/-- A reader of the sample file that does not check the framing. -/
def uncheckedReader : Reader MemoryStream := .new "" numberMetadata ⟨false, true⟩

/-- A store with other contents under the name of the sample file. -/
def storeOf (c : Bytes) : MemoryStore := MemoryStore.empty.put "n" (.ofBytes c)

theorem file?_storeOf (c : Bytes) :
  MemoryStore.view.file? "n" (storeOf c) = some c
  := by
  rw [storeOf, MemoryStore.file?_put, SparseBytes.toBytes_ofBytes]

theorem sound_storeOf {c : Bytes} (h : c.length < Buffer.limit) :
  MemoryStore.view.Sound (storeOf c)
  := by
  apply MemoryStore.sound_put MemoryStore.sound_empty
  rwa [← SparseBytes.length_toBytes, SparseBytes.toBytes_ofBytes]

theorem holds_uncheckedReader :
  Reader.Holds MemoryStore.view numberFile.toBytes.1 uncheckedReader numberStore
  := holds_numberReader

theorem exists_read_uncheckedReader :
  ∃ ws, (Reader.read ⟨1, 3⟩ (uncheckedReader, numberStore)).1 = .ok ws
  := exists_read_new ⟨false, true⟩

/-- What is left of the sample file if all but the two batches with rows is lost. -/
def damagedFile : Bytes :=
  List.replicate 10 0 ++ (numberFile.toBytes.1.drop 10).take 384 ++ List.replicate 272 7
    ++ (numberFile.toBytes.1.drop 666).take 384

end Sample

/-- The rows from 1 up to 4 are still there. -/
theorem Reader.read_damaged_numbers :
  ∃ ws, (read ⟨1, 3⟩ (Sample.uncheckedReader, Sample.numberStore)).1 = .ok ws
    ∧ (read ⟨1, 3⟩ (Reader.new "" Sample.numberMetadata ⟨false, true⟩,
      Sample.storeOf Sample.damagedFile)).1 = .ok ws
  := by
  obtain ⟨ws, hr⟩ := Sample.exists_read_uncheckedReader
  use ws, hr
  apply read_of_sameExtents Sample.holds_uncheckedReader (by decide) hr rfl rfl
  · apply Sample.sound_storeOf
    decide +kernel
  · apply Sample.file?_storeOf
  · decide +kernel

namespace Sample

/-- The sample file, cut off in its last batch. -/
def shortFile : Bytes := numberFile.toBytes.1.take 700

theorem sound_shortFile :
  MemoryStore.view.Sound (storeOf shortFile)
  := by
  apply sound_storeOf
  decide +kernel

theorem holds_shortFile :
  Reader.Holds MemoryStore.view shortFile uncheckedReader (storeOf shortFile)
  := file?_storeOf shortFile

end Sample

/-- Then the rows from 1 up to 4 cannot be read, but the first two rows can. -/
theorem Reader.read_short_numbers :
  (∃ d, (read ⟨1, 3⟩ (Sample.uncheckedReader, Sample.storeOf Sample.shortFile)).1
    = .error (.dataFormat "n" d))
  ∧ (read ⟨0, 2⟩ (afterReads [⟨1, 3⟩, ⟨4, 1⟩]
      (Sample.uncheckedReader, Sample.storeOf Sample.shortFile))).1
    = (read ⟨0, 2⟩ (Sample.uncheckedReader, Sample.numberStore)).1
  := by
  obtain ⟨ws, hr⟩ := Sample.exists_read_uncheckedReader
  have hq : (⟨2, ⟨666, 3⟩⟩ : Placed) ∈ Sample.uncheckedReader.metadata.footer.meeting ⟨1, 3⟩ := by
    decide +kernel
  have hp : 700 < batchEnd Sample.numberFile.toBytes.1 666 := by decide +kernel
  have h := read_of_cutOff Sample.sound_numberStore Sample.holds_uncheckedReader rfl (by decide) hr
    hq hp ⟨rfl, rfl, rfl⟩ Sample.sound_shortFile Sample.holds_shortFile
  use h.1
  apply h.2.2 [⟨4, 1⟩] ⟨0, 2⟩ _ nofun
  decide +kernel

/-- The footer is gone, and with it the schema. -/
theorem Sample.isOk_read_nothing :
  (Reader.read ⟨0, 0⟩ (uncheckedReader, numberStore)).1.isOk = true
    ∧ (Reader.read ⟨0, 0⟩ (uncheckedReader, storeOf shortFile)).1.isOk = false
  := by
  have ho := Reader.over_of_unchecked sound_numberStore holds_uncheckedReader rfl
  have hs := Reader.over_of_unchecked sound_shortFile holds_shortFile rfl
  have h := Reader.read_of_over ho fun (_ : (⟨0, 0⟩ : RowRange).limit = 0) _ _ =>
    holds_uncheckedReader
  have h' := Reader.read_of_over hs fun (_ : (⟨0, 0⟩ : RowRange).limit = 0) _ _ => holds_shortFile
  rw [h, h']
  decide +kernel

theorem Sample.read_shortFile :
  ∃ e, (Reader.read ⟨1, 3⟩ (uncheckedReader, storeOf shortFile)).1 = .error e
  := by
  have ho := Reader.over_of_unchecked sound_shortFile holds_shortFile rfl
  have h := Reader.read_of_over ho fun (h0 : (⟨1, 3⟩ : RowRange).limit = 0) => nomatch h0
  rw [h]
  apply exists_of_isOk_eq_false
  decide +kernel

/-- No batch meets a range without rows, and yet it cannot be read any more, for the schema was
in the footer. -/
theorem Reader.read_short_nothing :
  (∃ ws, (read ⟨1, 3⟩ (Sample.uncheckedReader, Sample.numberStore)).1 = .ok ws)
  ∧ (∃ q ∈ Sample.numberMetadata.footer.meeting ⟨1, 3⟩,
    700 < batchEnd Sample.numberFile.toBytes.1 q.summary.offset)
  ∧ ¬ ∀ range : RowRange,
    (∀ q ∈ Sample.numberMetadata.footer.meeting range,
      batchEnd Sample.numberFile.toBytes.1 q.summary.offset ≤ 700) →
    (read range
      (read ⟨1, 3⟩ (Sample.uncheckedReader, Sample.storeOf Sample.shortFile)).2).1
      = (read range (Sample.uncheckedReader, Sample.numberStore)).1
  := by
  refine ⟨Sample.exists_read_uncheckedReader, by decide +kernel, ?_⟩
  intro h
  have h := h ⟨0, 0⟩ (by decide +kernel)
  obtain ⟨e, he⟩ := Sample.read_shortFile
  have ho := over_of_unchecked Sample.sound_shortFile Sample.holds_shortFile rfl
  rw [read_after_error ho Sample.holds_shortFile he] at h
  obtain ⟨hfull, hshort⟩ := Sample.isOk_read_nothing
  rw [h, hfull] at hshort
  cases hshort

end BatchFile
