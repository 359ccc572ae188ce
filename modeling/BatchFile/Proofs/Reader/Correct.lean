import BatchFile.Fixture.Builder
import BatchFile.Proofs.Reader.Rows
import BatchFile.Proofs.Storage.Memory

/-!
# Reads are correct

A read of some rows that succeeds is made of one window for each batch that meets the range,
whatever the metadata say and whatever has become of the file
(`cut_of_read`).  If the metadata are consistent with the contents, then every read of a range
that lies in the file succeeds, and gives the rows of the range (`read_of_consistent`).
-/

namespace BatchFile

namespace Reader

open Storage

variable {σ τ : Type} [Storage σ τ] {V : View σ τ} {c : Bytes} {r : Reader τ} {s : σ}
  {range : RowRange} {path : Path} {config : ReaderConfig} {m : FileMetadata}

/-- Windows are an answer to a range of the given rows: they show the rows of the range, none
of them is empty unless no rows are asked for, and then there is one window over no rows. -/
structure Serves (rows : List Row) (range : RowRange) (ws : List Window) : Prop where
  rows_eq : (ws.flatMap fun w => w.slice.rows)
    = (rows.drop range.start.toNat).take range.limit.toNat
  isEmpty_eq : range.limit ≠ 0 → ∀ w ∈ ws, w.isEmpty = false
  eq_singleton : range.limit = 0 → ∃ w, ws = [w] ∧ w.size = 0

theorem serves_empty {rows : List Row} (hl : range.limit = 0) (schema : Schema) :
  Serves rows range [Window.empty schema]
  where
  rows_eq := by
    rw [hl, UInt64.toNat_zero, List.take_zero, List.flatMap_singleton]
    apply Window.rows_empty schema
  isEmpty_eq h := (h hl).elim
  eq_singleton _ := ⟨_, rfl, rfl⟩

variable [Ipc.Decoder]

theorem isEmpty_of_cut {p : Placed} {w : Window} (h : p.Cut config c range w) :
  w.isEmpty = false
  := by
  have hl := h.start_lt_stop
  rw [Window.isEmpty]
  apply decide_eq_false
  omega

/-- Windows that are cut from the batches of consistent contents show the rows of the range. -/
theorem serves_of_cut {ws : List Window} (hm : m.Consistent c) (hl : range.limit ≠ 0)
    (h : List.Forall₂ (Placed.Cut config c range) (m.footer.meeting range) ws) :
  Serves (m.allRows c) range ws
  where
  rows_eq := by
    have hb : range.behind - max 0 range.start.toNat = range.limit.toNat := by
      rw [RowRange.behind]
      omega
    have hs := flatMap_shared range m.footer.batches 0 fun _ => hm.length_rowsAt
    rw [hb, Nat.sub_zero] at hs
    rw [FileMetadata.allRows, ← hs]
    apply flatMap_rows_of_cut (fun _ => meets_of_mem_meeting) h
  isEmpty_eq _ := by
    intro w hw
    obtain ⟨p, -, hp⟩ := exists_of_mem_right h hw
    apply isEmpty_of_cut hp
  eq_singleton h0 := (hl h0).elim

/-- The plan for a range that lies in consistent contents comes to its end. -/
theorem ending_of_consistent (hm : m.Consistent c)
    (hc : checkRange m.recordCount range = .ok ()) :
  (RowPlan.ofRange m.footer range).ending = .complete
  := by
  apply RowPlan.ending_ofRange
  · rw [hm.rowTotal_eq]
    apply m.recordCount.toNat_lt
  · rw [hm.rowTotal_eq]
    exact (checkRange_eq_ok_iff.mp hc).2

/-- Windows that are cut from the batches which meet a range are what reading it gives, if the
plan comes to its end. -/
theorem readIn_of_cut {known? : Option Schema} {ws : List Window}
    (hr : ∀ p : UInt64, p.toNat ≤ c.length → V.refusal? p = none)
    (hc : checkRange m.recordCount range = .ok ()) (hl : range.limit ≠ 0)
    (he : (RowPlan.ofRange m.footer range).ending = .complete)
    (hw : List.Forall₂ (Placed.Cut config c range) (m.footer.meeting range) ws) :
  readIn V path config m known? c range = .ok ws
  := by
  have hg := (forall₂_cut_iff fun _ => meets_of_mem_meeting).mp hw
  rw [← RowPlan.selections_ofRange (behind_lt_of_checkRange hc) he] at hg
  have hi := windowsIn_eq_ok V path hr hg
  rw [readIn_of_complete he hi, if_neg (windows_ne_nil hc hl he hi)]

/-- Over consistent contents the rows of every range that lies in the file are found. -/
theorem readIn_of_consistent {known? : Option Schema}
    (hr : ∀ p : UInt64, p.toNat ≤ c.length → V.refusal? p = none) (hm : m.Consistent c)
    (hc : checkRange m.recordCount range = .ok ())
    (hs : range.limit = 0 → ∃ schema, schemaIn path (m.schema?.or known?) c = .ok schema) :
  ∃ ws, readIn V path config m known? c range = .ok ws ∧ Serves (m.allRows c) range ws
  := by
  by_cases hl : range.limit = 0
  · obtain ⟨schema, h⟩ := hs hl
    use [Window.empty schema]
    rw [readIn_of_limit_zero hl, h]
    exact ⟨rfl, serves_empty hl schema⟩
  · obtain ⟨ws, hw⟩ : ∃ ws, List.Forall₂ (Placed.Cut config c range) (m.footer.meeting range) ws :=
      exists_forall₂ fun p hp => exists_cut hm hp
    use ws
    exact ⟨readIn_of_cut hr hc hl (ending_of_consistent hm hc) hw, serves_of_cut hm hl hw⟩

/-- The windows of a read that succeeds are cut from the batches that meet the range. -/
theorem forall₂_cut_of_read {ws : List Window} (hh : Holds V c r s) (hl : range.limit ≠ 0)
    (hr : (read range (r, s)).1 = .ok ws) :
  List.Forall₂ (Placed.Cut r.config c range) (r.metadata.footer.meeting range) ws
  := by
  obtain ⟨hc, he, hg⟩ := gives_of_read hh hl (Prod.ext hr rfl)
  rw [RowPlan.selections_ofRange (behind_lt_of_checkRange hc) he] at hg
  apply (forall₂_cut_iff fun _ => meets_of_mem_meeting).mpr hg

/-- The windows of a read that succeeds are cut from the batches that meet the range, in order,
one from each, and have as many rows together as the range. -/
theorem cut_of_read {ws : List Window} (hh : Holds V c r s) (hl : range.limit ≠ 0)
    (hr : (read range (r, s)).1 = .ok ws) :
  List.Forall₂ (Placed.Cut r.config c range) (r.metadata.footer.meeting range) ws
    ∧ Window.totalSize ws = range.limit.toNat
  := by
  obtain ⟨hc, he, -⟩ := gives_of_read hh hl (Prod.ext hr rfl)
  have hw := forall₂_cut_of_read hh hl hr
  use hw
  rw [totalSize_of_cut hw, sharedRows_meeting (behind_lt_of_checkRange hc) he]

/-- A reader over consistent contents finds the rows of every range that lies in the file. -/
theorem serves_of_over (ho : Over V c r s) (hk : checkedIn r.path r.config c = .ok ())
    (hm : r.metadata.Consistent c) (hc : checkRange r.metadata.recordCount range = .ok ())
    (hf : range.limit = 0 → Consults V c r s)
    (hq : range.limit = 0 → ∃ schema,
      schemaIn r.path (r.metadata.schema?.or r.footerSchema?) c = .ok schema) :
  ∃ ws, (read range (r, s)).1 = .ok ws ∧ Serves (r.metadata.allRows c) range ws
  := by
  obtain ⟨ws, hw, ha⟩ := readIn_of_consistent (refusal?_of_over ho hk) hm hc hq
  use ws
  rw [read_of_over ho hf, hc, hk]
  exact ⟨hw, ha⟩

/-- A reader that can be read from finds the rows of every range that lies in consistent
contents. -/
theorem serves_of_ready (h : Ready V c r s) (hm : r.metadata.Consistent c)
    (hc : checkRange r.metadata.recordCount range = .ok ())
    (hf : range.limit = 0 → Consults V c r s)
    (hq : range.limit = 0 → ∃ schema,
      schemaIn r.path (r.metadata.schema?.or r.footerSchema?) c = .ok schema) :
  ∃ ws, (read range (r, s)).1 = .ok ws ∧ Serves (r.metadata.allRows c) range ws
  := by
  obtain ⟨t, s', -, hx⟩ := h.exists_shows
  rw [read_of_ready h hc hf]
  apply readIn_of_consistent (fun p => V.refusal?_eq_none hx.1 hx.2) hm hc hq

/-- A read of consistent contents succeeds and gives the rows of the range. -/
theorem read_of_consistent (hs : V.Sound s) (hh : Holds V c r s)
    (hm : r.metadata.Consistent c)
    (hv : r.config.validateFraming = true → Framing.Valid c)
    (hc : checkRange r.metadata.recordCount range = .ok ())
    (hl : range.limit = 0 → r.metadata.schema?.isSome = true
      ∨ V.file? r.path s = some c ∧ ∃ a, Framing.footerIn c = .ok a) :
  ∃ ws, (read range (r, s)).1 = .ok ws ∧ Serves (r.metadata.allRows c) range ws
  := by
  have hk : checkedIn r.path r.config c = .ok () := checkedIn_eq_ok_iff.mpr hv
  apply serves_of_over ⟨hs, hh, fun _ => hk⟩ hk hm hc
  · intro h0 hn _
    rcases hl h0 with h | h
    · rw [hn] at h
      cases h
    · apply h.1
  · intro h0
    cases hn : r.metadata.schema?.or r.footerSchema? with
    | some schema => exact ⟨schema, rfl⟩
    | none =>
      rcases hl h0 with h | ⟨_, a, ha⟩
      · rw [(Option.or_eq_none_iff.mp hn).1] at h
        cases h
      · use a.1
        rw [schemaIn, ha]
        rfl

end Reader

/-! ### A small file -/

namespace Sample

/-- The schema of tables with one column of small numbers. -/
def numberSchema : Schema := ⟨[⟨"n", .integer true .w8, false⟩], []⟩

/-- The table of the given numbers. -/
def numbers (ns : List Int) : RecordBatch :=
  (RecordBatch.ofSomeColumns? numberSchema
    [.ofValues (.integer true .w8) (ns.map .integer)]).getD (.empty numberSchema)

/-- A file of five numbers, with a batch without rows between the others. -/
def numberFile : FileBuilder := ⟨numberSchema, [numbers [0, 1], numbers [], numbers [2, 3, 4]]⟩

/-- What a reader of that file knows about it, the schema apart. -/
def numberMetadata : FileMetadata := .ofFooter "n" numberFile.toBytes.2 none

/-- A store that has the file. -/
def numberStore : MemoryStore := MemoryStore.empty.put "n" (.ofBytes numberFile.toBytes.1)

/-- The same store, if all reads fail. -/
def resetStore : MemoryStore :=
  { numberStore with faults :=
    { Faults.none with read? := some .connectionReset, read?_ne := by decide } }

/-- A reader of the file that checks all it can. -/
def numberReader : Reader MemoryStream := .new "" numberMetadata ⟨true, true⟩

theorem sound_numberStore :
  MemoryStore.view.Sound numberStore
  := by
  apply MemoryStore.sound_put MemoryStore.sound_empty
  decide +kernel

theorem holds_numberReader :
  Reader.Holds MemoryStore.view numberFile.toBytes.1 numberReader numberStore
  := by
  have h := MemoryStore.file?_put MemoryStore.empty "n" (.ofBytes numberFile.toBytes.1)
  rwa [SparseBytes.toBytes_ofBytes] at h

theorem valid_numberFile :
  Framing.Valid numberFile.toBytes.1
  := by decide +kernel

theorem consistent_numberMetadata :
  numberMetadata.Consistent numberFile.toBytes.1
  := by decide +kernel

/-- Whatever a new reader of the file checks, it reads the rows from 1 up to 4. -/
theorem exists_read_new (config : ReaderConfig) :
  ∃ ws, (Reader.read ⟨1, 3⟩ (.new "" numberMetadata config, numberStore)).1 = .ok ws
  := by
  have ho : Reader.Over MemoryStore.view numberFile.toBytes.1 (.new "" numberMetadata config)
      numberStore := ⟨sound_numberStore, holds_numberReader, nofun⟩
  have hk : Reader.checkedIn "n" config numberFile.toBytes.1 = .ok () :=
    Reader.checkedIn_eq_ok_iff.mpr fun _ => valid_numberFile
  have hc : Reader.checkRange numberMetadata.recordCount ⟨1, 3⟩ = .ok () := by
    decide +kernel
  obtain ⟨ws, h, -⟩ := Reader.serves_of_over ho hk consistent_numberMetadata hc nofun nofun
  exact ⟨ws, h⟩

end Sample

/-- The rows from 1 up to 4 of the sample file lie in three batches, one of which is empty. -/
theorem Reader.read_of_consistent_numbers :
  ∃ ws, (read ⟨1, 3⟩ (Sample.numberReader, Sample.numberStore)).1 = .ok ws
    ∧ Serves (Sample.numberMetadata.allRows Sample.numberFile.toBytes.1) ⟨1, 3⟩ ws
  := by
  apply read_of_consistent Sample.sound_numberStore Sample.holds_numberReader
  · apply Sample.consistent_numberMetadata
  · exact fun _ => Sample.valid_numberFile
  · decide +kernel
  · intro h
    cases h

/-- Metadata that the sample file does not agree with: too many rows are claimed, batches are
out of order, one of them occurs twice, and its rows are counted in two ways. -/
def Sample.wrongMetadata : FileMetadata :=
  ⟨"n", 9, ⟨[⟨666, 2⟩, ⟨5, 0⟩, ⟨10, 2⟩, ⟨666, 3⟩]⟩, none⟩

/-- A reader that is told so and does not compare row counts. -/
def Sample.wrongReader : Reader MemoryStream := .new "" wrongMetadata ⟨true, false⟩

theorem Sample.over_wrongReader :
  Reader.Over MemoryStore.view numberFile.toBytes.1 wrongReader numberStore
  := ⟨sound_numberStore, holds_numberReader, nofun⟩

/-- Even then the rows from 1 up to 6 are cut from the batches as the metadata place them. -/
theorem Reader.cut_of_read_numbers :
  ∃ ws, (read ⟨1, 5⟩ (Sample.wrongReader, Sample.numberStore)).1 = .ok ws
    ∧ List.Forall₂ (Placed.Cut ⟨true, false⟩ Sample.numberFile.toBytes.1 ⟨1, 5⟩)
      (Sample.wrongMetadata.footer.meeting ⟨1, 5⟩) ws
    ∧ Window.totalSize ws = 5
  := by
  have hr : (read ⟨1, 5⟩ (Sample.wrongReader, Sample.numberStore)).1 = _ :=
    read_of_over Sample.over_wrongReader nofun
  obtain ⟨ws, hw⟩ : ∃ ws, (do
      checkRange Sample.wrongMetadata.recordCount ⟨1, 5⟩
      checkedIn "n" ⟨true, false⟩ Sample.numberFile.toBytes.1
      readIn MemoryStore.view "n" ⟨true, false⟩ Sample.wrongMetadata none
        Sample.numberFile.toBytes.1 ⟨1, 5⟩ : Except (Failure Error) (List Window)) = .ok ws := by
    apply exists_of_isOk
    decide +kernel
  use ws, hr.trans hw
  apply cut_of_read Sample.over_wrongReader.holds
  · decide
  · apply hr.trans hw

end BatchFile
