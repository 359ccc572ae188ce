import BatchFile.Proofs.Reader.Records
import BatchFile.Proofs.Window.Concat
import Mathlib.Algebra.Ring.Nat

/-!
# Joined reads

Windows of one schema are joined to their selected rows, in order, as long as a word holds the
number of these rows and the columns of the table can hold them (`Window.FitTogether`).  The
windows of a read over consistent contents of one schema are such windows, and so the table that
they are joined to has the rows of the range (`Window.concat_of_schema`).
-/

namespace BatchFile

open Storage

/-- Columns of the types that have a name can hold the slots of fewer than 2 ^ 59 rows, if an offset
counts the bytes that these have at each position of values of variable length. -/
theorem Window.fitTogether_of_lt {w : Window} {ws : List Window}
    (hn : totalSize (w :: ws) < 2 ^ 59)
    (hb : ∀ i f width, w.schema.fields[i]? = some f → f.type.offsetWidth? = some width →
      Slot.totalBytes (slotsAt i ((w :: ws).map slice)) < Bytes.count width / 2) :
  FitTogether (w :: ws)
  := by
  intro _ i f hf
  have hl : Buffer.limit = 2 ^ 63 := rfl
  have hs := length_slotsAt_le i ((w :: ws).map slice)
  rw [totalRows_map_slice] at hs
  apply flatExcess?_of_lt
  · rw [← List.map_cons]
    omega
  · intro width hw
    apply hb i f width hf hw

theorem Window.fitTogether_of_fixedWidth {ws : List Window} (hn : totalSize ws < 2 ^ 59)
    (hf : ∀ w ∈ ws, ∀ f ∈ w.schema.fields, f.type.offsetWidth? = none) :
  FitTogether ws
  := by
  cases ws with
  | nil => exact trivial
  | cons w ws =>
    apply fitTogether_of_lt hn
    intro i f width hi hw
    rw [hf w List.mem_cons_self f (List.mem_of_getElem? hi)] at hw
    cases hw

section Reads

variable [Ipc.Decoder]

/-- All batches that should have rows have the given schema, and the metadata know no other. -/
structure FileMetadata.OfSchema (m : FileMetadata) (c : Bytes) (schema : Schema) : Prop where
  eq_of_known : ∀ known, m.schema? = some known → known = schema
  schema_eq : ∀ b ∈ m.footer.batches, 0 < b.recordCount.toNat →
    (batchIn c b.offset).map RecordBatch.schema = .ok schema

namespace Reader

variable {σ τ : Type} [Storage σ τ] {V : View σ τ} {c : Bytes} {r : Reader τ} {s : σ}
  {range : RowRange} {schema : Schema} {ws : List Window}

/-- The windows of a read of rows over consistent contents have as many rows as are asked for. -/
theorem totalSize_of_read (hh : Holds V c r s) (hm : r.metadata.Consistent c)
    (hc : checkRange r.metadata.recordCount range = .ok ()) (hl : range.limit ≠ 0)
    (hr : (read range (r, s)).1 = .ok ws) :
  Window.totalSize ws = range.limit.toNat
  := by
  rw [totalSize_of_cut (forall₂_cut_of_read hh hl hr),
    sharedRows_meeting (behind_lt_of_checkRange hc) (ending_of_consistent hm hc)]

variable [ColumnLimits]

/-- What the windows of a read without rows are joined to. -/
theorem concat_of_limit_zero (hs : r.metadata.OfSchema c schema) (hl : range.limit = 0)
    (hr : (read range (r, s)).1 = .ok ws) :
  ∃ b, Window.concat ws = .ok (some b) ∧ b.rows = [] ∧ b.rowCount = 0
    ∧ (r.metadata.schema?.isSome = true → b.schema = schema)
  := by
  obtain ⟨known, rfl, hk⟩ := windows_of_limit_zero hl hr
  have hz : Window.totalSize [Window.empty known] < UInt64.size := by
    change 0 < UInt64.size
    decide
  obtain ⟨b, hb, he, hn, hw⟩ := Window.exists_concat_of_schema
    (List.forall_mem_nil _) hz fun h => (h rfl).elim
  refine ⟨b, hb, hw, hn, ?_⟩
  intro hm
  obtain ⟨known', hm⟩ := Option.isSome_iff_exists.mp hm
  rw [he, ← hs.eq_of_known known' hm]
  apply hk known' hm

/-- What the windows of a read of rows are joined to. -/
theorem concat_of_limit_ne_zero (hh : Holds V c r s) (hm : r.metadata.Consistent c)
    (hs : r.metadata.OfSchema c schema) (hc : checkRange r.metadata.recordCount range = .ok ())
    (hl : range.limit ≠ 0) (hr : (read range (r, s)).1 = .ok ws) (hf : Window.FitTogether ws) :
  ∃ b, Window.concat ws = .ok (some b) ∧ b.rows = r.metadata.rowsIn c range
    ∧ b.rowCount = range.limit.toNat ∧ b.schema = schema
  := by
  have hw := forall₂_cut_of_read hh hl hr
  have ht := totalSize_of_read hh hm hc hl hr
  have hv := schema_of_cut hs.schema_eq hw
  cases ws with
  | nil => exact (hl (UInt64.toNat_inj.mp ht.symm)).elim
  | cons w ws =>
    obtain ⟨hw', hv⟩ := List.forall_mem_cons.mp hv
    obtain ⟨b, hb, he, hn, hrows⟩ := Window.exists_concat_of_schema
      (fun v h => (hv v h).trans hw'.symm) (ht ▸ range.limit.toNat_lt) hf
    refine ⟨b, hb, ?_, hn.trans ht, he.trans hw'⟩
    rw [hrows]
    apply (serves_of_cut hm hl hw).rows_eq

end Reader

end Reads

/-- Windows of one schema are joined to a table of this schema, as long as a word holds the sum of
their sizes and the columns of a table can hold their slots: its rows are the rows of each batch
from the start of its window up to the stop, in the order of the windows, and it has as many rows as
the windows have together.  Columns of a type that has a name can hold the slots of fewer than
2 ^ 59 rows if the bytes that these have are counted by an offset of the type, where it has offsets.
If windows come from a read of consistent contents of one schema, then the rows of the table are the
rows of the range that has been read, and every range that lies in the file can be read. -/
theorem Window.concat_of_schema :
  (∀ [ColumnLimits] (w : Window) (ws : List Window), (∀ v ∈ ws, v.schema = w.schema) →
    totalSize (w :: ws) < UInt64.size → FitTogether (w :: ws) →
    ∃ b, concat (w :: ws) = .ok (some b) ∧ b.schema = w.schema
      ∧ b.rowCount = totalSize (w :: ws)
      ∧ b.rows = (w :: ws).flatMap fun v => (v.batch.rows.drop v.start).take v.size)
  ∧ (∀ (w : Window) (ws : List Window), totalSize (w :: ws) < 2 ^ 59 →
    (∀ i f width, w.schema.fields[i]? = some f → f.type.offsetWidth? = some width →
      Slot.totalBytes (slotsAt i ((w :: ws).map slice)) < Bytes.count width / 2) →
    FitTogether (w :: ws))
  ∧ ∀ [ColumnLimits] [Ipc.Decoder] {σ τ : Type} [Storage σ τ] {V : View σ τ} {c : Bytes}
    {r : Reader τ} {s : σ} {range : RowRange} {schema : Schema},
    Reader.Ready V c r s → r.metadata.Consistent c → r.metadata.OfSchema c schema →
    Reader.checkRange r.metadata.recordCount range = .ok () →
    ((range.limit = 0 → Reader.Consults V c r s ∧ ∃ known,
        Reader.schemaIn r.path (r.metadata.schema?.or r.footerSchema?) c = .ok known) →
      ∃ ws, (Reader.read range (r, s)).1 = .ok ws)
    ∧ ∀ ws, (Reader.read range (r, s)).1 = .ok ws → FitTogether ws →
      ∃ b, concat ws = .ok (some b) ∧ b.rows = r.metadata.rowsIn c range
        ∧ b.rowCount = range.limit.toNat
        ∧ (range.limit ≠ 0 ∨ r.metadata.schema?.isSome = true → b.schema = schema)
  := by
  refine ⟨?_, ?_, ?_⟩
  · intro _ w ws hs hn hf
    obtain ⟨b, hb, he, hc, hr⟩ := exists_concat_of_schema hs hn hf
    refine ⟨b, hb, he, hc, ?_⟩
    rw [hr]
    apply List.flatMap_congr
    intro v _
    apply v.rows_eq
  · intro w ws hn hb
    apply fitTogether_of_lt hn hb
  · intro _ _ σ τ _ V c r s range schema hr hm hs hc
    constructor
    · intro hf
      obtain ⟨ws, hw, -⟩ := Reader.serves_of_ready hr hm hc (fun hl => (hf hl).1)
        fun hl => (hf hl).2
      exact ⟨ws, hw⟩
    · intro ws hw hf
      by_cases hl : range.limit = 0
      · obtain ⟨b, hb, hrows, hn, he⟩ := Reader.concat_of_limit_zero hs hl hw
        refine ⟨b, hb, ?_, ?_, ?_⟩
        · rw [hrows, FileMetadata.rowsIn, hl]
          rfl
        · rw [hn, hl]
          rfl
        · rintro (h | h)
          · apply (h hl).elim
          · apply he h
      · obtain ⟨b, hb, hrows, hn, he⟩ :=
          Reader.concat_of_limit_ne_zero hr.holds hm hs hc hl hw hf
        exact ⟨b, hb, hrows, hn, fun _ => he⟩

/-- The three rows from the second on lie in two batches of the sample file; joined they are one
table.  Two windows on one table are joined as well. -/
theorem Window.concat_of_schema_numbers :
  (∃ ws b, (Reader.read ⟨1, 3⟩ (Sample.openNumberReader, Sample.numberStore)).1 = .ok ws
    ∧ concat ws = .ok (some b) ∧ b.schema = Sample.numberSchema
    ∧ b.rows = [[.integer 1], [.integer 2], [.integer 3]])
  ∧ ∃ b, concat [Sample.swappedWindow, Sample.swappedWindow] = .ok (some b)
    ∧ b.rows = [[5, 6, 7], [5, 6, 7]].map (List.map Value.integer)
  := by
  obtain ⟨hj, -, hread⟩ := concat_of_schema
  constructor
  · have hl := MemoryStore.view.length_lt_size Sample.sound_numberStore Sample.holds_numberReader
    obtain ⟨hm, ha⟩ := FileBuilder.consistent_metadata Sample.restored_numberFile (by decide) hl "n"
    have hu :=
      FileMetadata.uniform_metadata Sample.restored_numberFile (by decide) hl "n" (by decide)
    have hs : (Sample.numberFile.metadata "n").OfSchema Sample.numberFile.toBytes.1
        Sample.numberSchema :=
      ⟨fun _ hk => (Option.some.inj hk).symm, hu.schema_eq⟩
    have hc : Reader.checkRange (Sample.numberFile.metadata "n").recordCount ⟨1, 3⟩ = .ok () := by
      decide +kernel
    obtain ⟨he, hb⟩ := hread Sample.ready_openNumberReader hm hs hc
    obtain ⟨ws, hw⟩ := he nofun
    have hh := Sample.ready_openNumberReader.holds
    have hf : FitTogether ws := by
      apply fitTogether_of_fixedWidth
      · rw [Reader.totalSize_of_read hh hm hc (by decide) hw]
        decide
      · intro w hv
        rw [Reader.schema_of_cut hs.schema_eq (Reader.forall₂_cut_of_read hh (by decide) hw) w hv]
        decide
    obtain ⟨b, hb, hrows, -, hk⟩ := hb ws hw hf
    refine ⟨ws, b, hw, hb, hk (.inl (by decide)), ?_⟩
    rw [hrows]
    change (Sample.numberFile.metadata "n").rowsIn Sample.numberFile.toBytes.1 ⟨1, 3⟩ = _
    rw [FileMetadata.rowsIn, ha]
    decide
  · have hf : FitTogether [Sample.swappedWindow, Sample.swappedWindow] := by
      apply fitTogether_of_fixedWidth
      · decide
      · simp only [List.forall_mem_cons]
        decide
    obtain ⟨b, hb, -, -, hr⟩ := hj Sample.swappedWindow [Sample.swappedWindow]
      (fun v hv => by rw [List.mem_singleton.mp hv]) (by decide) hf
    use b, hb
    rw [hr]
    decide +kernel

namespace Sample

/-- A table without columns that counts as many rows as a word can. -/
def longestTable : RecordBatch := ⟨⟨[], []⟩, [], 18446744073709551615, rfl⟩

/-- All of its rows. -/
def longestWindow : Window := ⟨longestTable, 0, 18446744073709551615, by decide, by decide⟩

/-- One of its rows. -/
def shortWindow : Window := ⟨longestTable, 0, 1, by decide, by decide⟩

/-- A column of one value of the given number of bytes. -/
def wideColumn (n : Nat) : Column :=
  .ofValues .binary [.binary (List.replicate n 0)]

/-- A table of one row that has so many bytes. -/
def wideTable (n : Nat) : RecordBatch := ⟨⟨[⟨"b", .binary, false⟩], []⟩, [wideColumn n], 1, rfl⟩

/-- This row. -/
def wideWindow (n : Nat) : Window := ⟨wideTable n, 0, 1, Nat.zero_le 1, Nat.le_refl 1⟩

theorem totalBytes_wideWindow (n : Nat) :
  Slot.totalBytes (Window.slotsAt 0 ([wideWindow n, wideWindow n].map Window.slice)) = n + n
  := by
  have hn : (List.replicate n (0 : UInt8)).length = n := List.length_replicate
  change (List.replicate n (0 : UInt8)).length + ((List.replicate n (0 : UInt8)).length + 0) = n + n
  rw [hn, Nat.add_zero]

end Sample

/-- Windows of one schema are not joined if they have one row more than a word can count, or one
byte more than an offset can. -/
theorem Window.concat_beyond_limits :
  (¬ ∀ (w : Window) (ws : List Window), (∀ v ∈ ws, v.schema = w.schema) →
    ∃ b, concat (w :: ws) = .ok (some b))
  ∧ ¬ ∀ (w : Window) (ws : List Window), (∀ v ∈ ws, v.schema = w.schema) →
    totalSize (w :: ws) < UInt64.size → ∃ b, concat (w :: ws) = .ok (some b)
  := by
  constructor
  · intro h
    have he : concat [Sample.longestWindow, Sample.shortWindow] = .error (.panicked .addOverflow) :=
      rfl
    have hs : ∀ v ∈ [Sample.shortWindow], v.schema = Sample.longestWindow.schema := by decide
    obtain ⟨b, hb⟩ := h Sample.longestWindow [Sample.shortWindow] hs
    rw [he] at hb
    cases hb
  · intro h
    have hs : ∀ v ∈ [Sample.wideWindow (2 ^ 30)], v.schema = (Sample.wideWindow (2 ^ 30)).schema :=
      fun v hv => by rw [List.mem_singleton.mp hv]
    obtain ⟨b, hb⟩ := h _ _ hs (by decide)
    obtain ⟨b, hj, -⟩ := concat_eq_ok_iff.mp hb
    have hf := (joinable_of_joinTables hj).fits (List.cons_ne_nil _ _) 0 _ rfl
    refine flatExcess?_ne_none rfl ?_ hf
    rw [← List.map_cons, Sample.totalBytes_wideWindow]
    decide

end BatchFile
