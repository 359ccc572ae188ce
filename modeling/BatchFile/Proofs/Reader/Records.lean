import BatchFile.Proofs.Fixture.RoundTrip

/-!
# Typed reads

Typed rows come from a conversion of tables, which is applied to the table of each window of a
read.  If the conversion goes row by row (`ConvertsBy`), and if the file is consistent with its
metadata and of one schema, then a read gives what the rows of the range convert to, in order, or
nothing if one of them does not convert.  How the rows lie in batches makes no difference to it,
and neither do rows outside the range (`readValues_of_uniform`).  Files that are built of tables of
one schema are such files (`FileMetadata.uniform_metadata`), and the conversion to a row type goes
row by row if the tables have columns (`RowType.convertsBy`).
-/

namespace BatchFile

/-! ### Conversions -/

section Conversion

variable {α : Type} {f : RecordBatch → Except RowError (List α)} {g : Row → Option α}
  {schema : Schema}

/-- The conversion `f` of tables with the given schema goes row by row: it succeeds just if `g` has
a value for every row of the table, and gives these values in the order of the rows. -/
def ConvertsBy (f : RecordBatch → Except RowError (List α)) (g : Row → Option α)
    (schema : Schema) : Prop :=
  ∀ (b : RecordBatch) (xs : List α), b.schema = schema →
    (f b = .ok xs ↔ b.rows.map g = xs.map some)

/-- What a conversion makes of the tables of all windows, one after another. -/
def valuesOf (f : RecordBatch → Except RowError (List α)) (ws : List Window) :
    Except (Failure Error) (List α) :=
  match ws.mapM fun w => f w.slice with
  | .ok xss => .ok xss.flatten
  | .error e => .error (.rows e)

theorem valuesOf_eq_error {ws : List Window} {e : Failure Error} (h : valuesOf f ws = .error e) :
  ∃ cause, e = .rows cause
  := by
  rw [valuesOf] at h
  split at h
  · cases h
  · cases h
    exact ⟨_, rfl⟩

theorem valuesOf_cons_eq_ok_iff {w : Window} {ws : List Window} {xs : List α} :
  valuesOf f (w :: ws) = .ok xs
    ↔ ∃ ys zs, f w.slice = .ok ys ∧ valuesOf f ws = .ok zs ∧ ys ++ zs = xs
  := by
  rw [valuesOf, valuesOf, List.mapM_cons]
  cases f w.slice with
  | error e => simp [bind, Except.bind]
  | ok ys => cases ws.mapM fun w => f w.slice <;> simp [bind, Except.bind, pure, Except.pure]

/-- A conversion that goes row by row goes through the rows of all windows. -/
theorem valuesOf_eq_ok_iff (hf : ConvertsBy f g schema) {ws : List Window} {xs : List α}
    (hw : ∀ w ∈ ws, w.schema = schema) :
  valuesOf f ws = .ok xs ↔ (ws.flatMap Window.rows).map g = xs.map some
  := by
  induction ws generalizing xs with
  | nil => cases xs <;> simp [valuesOf, pure, Except.pure]
  | cons w ws ih =>
    obtain ⟨hs, hw⟩ := List.forall_mem_cons.mp hw
    rw [valuesOf_cons_eq_ok_iff, List.flatMap_cons, List.map_append, eq_comm (b := xs.map some),
      List.map_eq_append_iff]
    simp only [ih hw, hf w.slice _ hs, eq_comm (a := xs)]
    constructor
    · rintro ⟨ys, zs, hy, hz, he⟩
      exact ⟨ys, zs, he, hy.symm, hz.symm⟩
    · rintro ⟨ys, zs, he, hy, hz⟩
      exact ⟨ys, zs, hy.symm, hz.symm, he⟩

/-- Rows have a list of values just if each of them has a value. -/
theorem exists_map_eq_map_some_iff {rows : List Row} :
  (∃ xs : List α, rows.map g = xs.map some) ↔ ∀ row ∈ rows, (g row).isSome = true
  := by
  induction rows with
  | nil => simp
  | cons row rows ih =>
    rw [List.forall_mem_cons, ← ih]
    constructor
    · rintro ⟨xs, h⟩
      obtain ⟨x, ys, -, hx, hs⟩ := List.map_eq_cons_iff.mp h.symm
      rw [← hx]
      exact ⟨rfl, ys, hs.symm⟩
    · rintro ⟨hr, xs, h⟩
      obtain ⟨x, hx⟩ := Option.isSome_iff_exists.mp hr
      use x :: xs
      rw [List.map_cons, List.map_cons, hx, h]

theorem getElem?_of_map_eq_map_some {rows : List Row} {xs : List α}
    (h : rows.map g = xs.map some) (i : Nat) :
  xs[i]? = rows[i]?.bind g
  := by
  have he : rows[i]?.map g = xs[i]?.map some := by
    rw [← List.getElem?_map, h, List.getElem?_map]
  generalize rows[i]? = row at he
  generalize xs[i]? = x at he
  cases row <;> cases x <;> simp_all

end Conversion

/-! ### Row types -/

namespace RowType

/-- The records that the rows of a table convert to; a table without columns has none, however
many rows it counts. -/
def ofBatch (t : RowType) (b : RecordBatch) : Except RowError (List Record) :=
  if b.schema.fields = [] then .ok [] else b.rows.mapM (t.convert b.schema)

/-- The conversion to a row type goes row by row, if the tables have columns. -/
theorem convertsBy (t : RowType) {schema : Schema} (h : schema.fields ≠ []) :
  ConvertsBy t.ofBatch (fun row => (t.convert schema row).toOption) schema
  := by
  rintro b xs rfl
  rw [ofBatch, if_neg h]
  apply mapM_eq_ok_iff

end RowType

theorem Reader.recordsOf_eq (t : RowType) (ws : List Window) :
  recordsOf t ws = valuesOf t.ofBatch ws
  := by
  have h : Window.toRecords t = fun w => t.ofBatch w.slice := rfl
  rw [recordsOf, valuesOf, h]
  cases ws.mapM fun w => t.ofBatch w.slice <;> rfl

/-! ### Files of one schema -/

namespace FileMetadata

variable [Ipc.Decoder] {m : FileMetadata} {c : Bytes} {schema : Schema} {range : RowRange}

/-- The metadata have the given schema, and so has every batch that should have rows. -/
structure Uniform (m : FileMetadata) (c : Bytes) (schema : Schema) : Prop where
  schema?_eq : m.schema? = some schema
  schema_eq : ∀ b ∈ m.footer.batches, 0 < b.recordCount.toNat →
    (batchIn c b.offset).map RecordBatch.schema = .ok schema

theorem schema_of_standsFor {ss : List BatchSummary} {bs : List RecordBatch}
    (h : List.Forall₂ (BatchSummary.StandsFor c) ss bs) (hb : ∀ b ∈ bs, b.schema = schema)
    {s : BatchSummary} (hs : s ∈ ss) :
  (batchIn c s.offset).map RecordBatch.schema = .ok schema
  := by
  obtain ⟨b, hm, hd⟩ := exists_of_mem_left h hs
  rw [hd.1, ← hb b hm]
  rfl

/-- A file that is built of tables of one schema is uniform. -/
theorem uniform_metadata {builder : FileBuilder} (hr : builder.Restored)
    (hn : builder.rows.length < UInt64.size) (hl : builder.toBytes.1.length < UInt64.size)
    (path : Path) (hb : ∀ b ∈ builder.batches, b.schema = builder.schema) :
  (builder.metadata path).Uniform builder.toBytes.1 builder.schema
  where
  schema?_eq := rfl
  schema_eq _ hs _ := schema_of_standsFor (FileBuilder.standsFor_toBytes hr hn hl) hb hs

/-- The rows of a range of a file. -/
def rowsIn (m : FileMetadata) (c : Bytes) (range : RowRange) : List Row :=
  ((m.allRows c).drop range.start.toNat).take range.limit.toNat

theorem length_flatMap_rowsAt {bs : List BatchSummary}
    (h : ∀ b ∈ bs, (rowsAt c b).length = b.recordCount.toNat) :
  (bs.flatMap (rowsAt c)).length = rowTotal bs
  := by
  induction bs with
  | nil => rfl
  | cons b bs ih =>
    obtain ⟨hb, h⟩ := List.forall_mem_cons.mp h
    rw [List.flatMap_cons, List.length_append, hb, ih h, rowTotal]

theorem Consistent.length_allRows (h : m.Consistent c) :
  (m.allRows c).length = m.recordCount.toNat
  := by
  rw [allRows, length_flatMap_rowsAt fun _ => h.length_rowsAt, h.rowTotal_eq]

/-- A range that lies in a consistent file has as many rows as it asks for. -/
theorem Consistent.length_rowsIn (h : m.Consistent c)
    (hc : Reader.checkRange m.recordCount range = .ok ()) :
  (m.rowsIn c range).length = range.limit.toNat
  := by
  have hb : range.start.toNat + range.limit.toNat ≤ m.recordCount.toNat :=
    (Reader.checkRange_eq_ok_iff.mp hc).2
  rw [rowsIn, List.length_take, List.length_drop, h.length_allRows]
  omega

theorem getElem?_rowsIn {i : Nat} (hi : i < range.limit.toNat) :
  (m.rowsIn c range)[i]? = (m.allRows c)[range.start.toNat + i]?
  := by
  rw [rowsIn, List.getElem?_take_of_lt hi, List.getElem?_drop]

end FileMetadata

namespace Reader

open Storage

variable {σ τ : Type} [Storage σ τ] [Ipc.Decoder] {V : View σ τ} {c : Bytes} {r : Reader τ}
  {s : σ} {range : RowRange} {schema : Schema} {m : FileMetadata} {config : ReaderConfig}

/-- Windows that are cut from batches of one schema have this schema. -/
theorem schema_of_cut {ws : List Window}
    (hs : ∀ b ∈ m.footer.batches, 0 < b.recordCount.toNat →
      (batchIn c b.offset).map RecordBatch.schema = .ok schema)
    (h : List.Forall₂ (Placed.Cut config c range) (m.footer.meeting range) ws) :
  ∀ w ∈ ws, w.schema = schema
  := by
  intro w hw
  obtain ⟨p, hp, hc⟩ := exists_of_mem_right h hw
  have hs := hs _ (summary_mem_of_mem_meeting hp)
    (Placed.recordCount_pos (meets_of_mem_meeting hp))
  rw [hc.batch] at hs
  apply Except.ok.inj hs

/-- A read without rows that succeeds gives one window over no rows, of the schema in the metadata
if they have one. -/
theorem windows_of_limit_zero {ws : List Window} (hl : range.limit = 0)
    (hr : (read range (r, s)).1 = .ok ws) :
  ∃ schema, ws = [Window.empty schema]
    ∧ ∀ known, r.metadata.schema? = some known → schema = known
  := by
  have hs := read_step range r s
  generalize read range (r, s) = a at hs hr
  cases hs with
  | refused _ => cases hr
  | unopened _ _ => cases hr
  | failed _ _ _ => cases hr
  | answered _ _ ha =>
    cases hr
    obtain ⟨ws, x₁, x₂, h1, -, h3⟩ := readOpened_eq_ok ha
    have hn := length_of_readSelections h1
    rw [(RowPlan.ofRange_of_limit_zero hl).1] at hn
    rw [answerWindows, if_pos (List.eq_nil_of_length_eq_zero hn), answerEmpty] at h3
    cases hm : r.metadata.schema? with
    | some schema =>
      rw [hm] at h3
      cases h3
      exact ⟨schema, rfl, fun _ hk => Option.some.inj hk⟩
    | none =>
      rw [hm] at h3
      obtain ⟨schema, z, -, hz⟩ := Action.bind_eq_ok_iff.mp h3
      cases hz
      refine ⟨schema, rfl, ?_⟩
      intro known hk
      cases hk

/-- The rows of a range that lies in a consistent file of one schema are read. -/
theorem read_of_uniform (h : Ready V c r s) (hm : r.metadata.Consistent c)
    (hu : r.metadata.Uniform c schema) (hc : checkRange r.metadata.recordCount range = .ok ()) :
  ∃ ws, (read range (r, s)).1 = .ok ws ∧ ws.flatMap Window.rows = r.metadata.rowsIn c range
    ∧ ∀ w ∈ ws, w.schema = schema
  := by
  have hn : Consults V c r s := by
    intro hn
    rw [hu.schema?_eq] at hn
    cases hn
  obtain ⟨ws, hr, hs⟩ := serves_of_ready h hm hc (fun _ => hn) fun _ => ⟨schema, by
    rw [hu.schema?_eq]
    rfl⟩
  use ws, hr, hs.rows_eq
  by_cases hl : range.limit = 0
  · obtain ⟨known, rfl, hk⟩ := windows_of_limit_zero hl hr
    intro w hw
    rw [List.mem_singleton.mp hw]
    apply hk schema hu.schema?_eq
  · apply schema_of_cut hu.schema_eq (forall₂_cut_of_read h.holds hl hr)

/-! ### Typed reads -/

variable {α : Type} {f : RecordBatch → Except RowError (List α)} {g : Row → Option α}

/-- Reads the rows of a range and converts the tables of the windows. -/
def readValues (f : RecordBatch → Except RowError (List α)) (range : RowRange) :
    Action (Reader τ × σ) (Failure Error) (List α) := do
  let windows ← read range
  .ofExcept (valuesOf f windows)

/-- Records are read by way of the conversion to their row type. -/
theorem readRecords_eq (t : RowType) (range : RowRange) :
  (readRecords t range : Action (Reader τ × σ) (Failure Error) (List Record))
    = readValues t.ofBatch range
  := by
  unfold readRecords readValues
  simp only [recordsOf_eq]

theorem readValues_of_read {ws : List Window} (h : (read range (r, s)).1 = .ok ws) :
  (readValues f range (r, s)).1 = valuesOf f ws
  := by
  have hr : read range (r, s) = (.ok ws, (read range (r, s)).2) := Prod.ext h rfl
  rw [readValues, Action.bind_apply_ok hr, Action.ofExcept_apply]

/-- Typed rows are read just if the rows of the range convert to them. -/
theorem readValues_eq_ok_iff (h : Ready V c r s) (hm : r.metadata.Consistent c)
    (hu : r.metadata.Uniform c schema) (hf : ConvertsBy f g schema)
    (hc : checkRange r.metadata.recordCount range = .ok ()) (xs : List α) :
  (readValues f range (r, s)).1 = .ok xs
    ↔ (r.metadata.rowsIn c range).map g = xs.map some
  := by
  obtain ⟨ws, hr, hw, hs⟩ := read_of_uniform h hm hu hc
  rw [readValues_of_read hr, valuesOf_eq_ok_iff hf hs, hw]

/-- Let a file be consistent with its metadata and of one schema, and let the conversion of tables
of this schema go row by row.  Typed rows of a range that lies in the file are then read just if
each row of the range converts, and they are what these rows convert to, as many as are asked for
and in their order; otherwise the error is one of the conversion.  Without rows there are no values.
Any other such file with the same rows in the range gives the same values or fails too, however
its rows lie in batches and whatever its other rows are.  (`readRecords_eq` and
`RowType.convertsBy` are about the conversions to row types.) -/
theorem readValues_of_uniform (hr : Ready V c r s) (hm : r.metadata.Consistent c)
    (hu : r.metadata.Uniform c schema) (hf : ConvertsBy f g schema)
    (hc : checkRange r.metadata.recordCount range = .ok ()) :
  ((∃ xs, (readValues f range (r, s)).1 = .ok xs)
    ↔ ∀ row ∈ r.metadata.rowsIn c range, (g row).isSome = true)
  ∧ (∀ xs, (readValues f range (r, s)).1 = .ok xs →
    xs.length = range.limit.toNat
    ∧ ∀ i < range.limit.toNat,
      xs[i]? = ((r.metadata.allRows c)[range.start.toNat + i]?).bind g)
  ∧ (∀ e, (readValues f range (r, s)).1 = .error e → ∃ cause, e = .rows cause)
  ∧ (range.limit = 0 → (readValues f range (r, s)).1 = .ok [])
  ∧ ∀ {σ' τ' : Type} [Storage σ' τ'] {V' : View σ' τ'} {c' : Bytes} {r' : Reader τ'} {s' : σ'},
    Ready V' c' r' s' → r'.metadata.Consistent c' → r'.metadata.Uniform c' schema →
    checkRange r'.metadata.recordCount range = .ok () →
    r'.metadata.rowsIn c' range = r.metadata.rowsIn c range →
    ∀ xs, (readValues f range (r', s')).1 = .ok xs ↔ (readValues f range (r, s)).1 = .ok xs
  := by
  have h := readValues_eq_ok_iff hr hm hu hf hc
  refine ⟨?_, ?_, ?_, ?_, ?_⟩
  · rw [← exists_map_eq_map_some_iff]
    apply exists_congr h
  · intro xs hx
    have hg := (h xs).mp hx
    constructor
    · rw [← hm.length_rowsIn hc, ← List.length_map some, ← hg, List.length_map]
    · intro i hi
      rw [getElem?_of_map_eq_map_some hg, FileMetadata.getElem?_rowsIn hi]
  · intro e he
    obtain ⟨ws, hw, -⟩ := read_of_uniform hr hm hu hc
    rw [readValues_of_read hw] at he
    apply valuesOf_eq_error he
  · intro hl
    apply (h []).mpr
    rw [FileMetadata.rowsIn, hl]
    rfl
  · intro σ' τ' _ V' c' r' s' hr' hm' hu' hc' hw xs
    rw [readValues_eq_ok_iff hr' hm' hu' hf hc', hw, h]

end Reader

/-! ### The sample file in two layouts -/

namespace Sample

/-- The numbers up to 255 as records. -/
def numberType : RowType := [⟨"n", .unsigned .w8, none⟩]

/-- A file that has the numbers of the sample file in other batches, apart from the first one,
which is not a record. -/
def regroupedFile : FileBuilder :=
  ⟨numberSchema, [numbers [-1, 1, 2], numbers [], numbers [3, 4]]⟩

/-- A store that has this file. -/
def regroupedStore : MemoryStore := MemoryStore.empty.put "n" (.ofBytes regroupedFile.toBytes.1)

/-- A new reader of this file. -/
def regroupedReader : Reader MemoryStream := .new "" (regroupedFile.metadata "n") ⟨false, false⟩

/-- A reader of the sample file whose stream is open and has been left somewhere. -/
def openNumberReader : Reader MemoryStream :=
  { (Reader.new "" (numberFile.metadata "n") ⟨true, true⟩ : Reader MemoryStream) with
    state := .opened ⟨.ofBytes numberFile.toBytes.1, 3⟩ }

theorem ready_openNumberReader :
  Reader.Ready MemoryStore.view numberFile.toBytes.1 openNumberReader numberStore
  := ⟨sound_numberStore, congrArg some (SparseBytes.toBytes_ofBytes _), nofun⟩

theorem ready_regroupedReader :
  Reader.Ready MemoryStore.view regroupedFile.toBytes.1 regroupedReader regroupedStore
  where
  sound := by
    apply MemoryStore.sound_put MemoryStore.sound_empty
    decide +kernel
  holds := by
    have h := MemoryStore.file?_put MemoryStore.empty "n" (.ofBytes regroupedFile.toBytes.1)
    rwa [SparseBytes.toBytes_ofBytes] at h
  checked _ := rfl

theorem restored_numberFile :
  numberFile.Restored
  := by decide +kernel

theorem restored_regroupedFile :
  regroupedFile.Restored
  := by decide +kernel

end Sample

/-- The three rows from the second on are the same records in both files, although the batch that
has the first two of them in the second file has a row that is no record. -/
theorem Reader.readValues_of_uniform_numbers :
  ∃ xs, xs.length = 3
    ∧ (readRecords Sample.numberType ⟨1, 3⟩ (Sample.openNumberReader, Sample.numberStore)).1
      = .ok xs
    ∧ (readRecords Sample.numberType ⟨1, 3⟩ (Sample.regroupedReader, Sample.regroupedStore)).1
      = .ok xs
  := by
  have hf := Sample.numberType.convertsBy (show Sample.numberSchema.fields ≠ [] from nofun)
  have hl := MemoryStore.view.length_lt_size Sample.sound_numberStore Sample.holds_numberReader
  have hl' := MemoryStore.view.length_lt_size Sample.ready_regroupedReader.sound
    Sample.ready_regroupedReader.holds
  obtain ⟨hm, ha⟩ := FileBuilder.consistent_metadata Sample.restored_numberFile (by decide) hl "n"
  obtain ⟨hm', ha'⟩ :=
    FileBuilder.consistent_metadata Sample.restored_regroupedFile (by decide) hl' "n"
  have hu := FileMetadata.uniform_metadata Sample.restored_numberFile (by decide) hl "n" (by decide)
  have hu' :=
    FileMetadata.uniform_metadata Sample.restored_regroupedFile (by decide) hl' "n" (by decide)
  have hc : checkRange (Sample.numberFile.metadata "n").recordCount ⟨1, 3⟩ = .ok () := by
    decide +kernel
  have hc' : checkRange (Sample.regroupedFile.metadata "n").recordCount ⟨1, 3⟩ = .ok () := by
    decide +kernel
  have hg : ∀ row ∈ (Sample.numberFile.metadata "n").rowsIn Sample.numberFile.toBytes.1 ⟨1, 3⟩,
      (Sample.numberType.convert Sample.numberSchema row).toOption.isSome = true := by
    rw [FileMetadata.rowsIn, ha]
    decide
  have hw : (Sample.regroupedFile.metadata "n").rowsIn Sample.regroupedFile.toBytes.1 ⟨1, 3⟩
      = (Sample.numberFile.metadata "n").rowsIn Sample.numberFile.toBytes.1 ⟨1, 3⟩ := by
    rw [FileMetadata.rowsIn, FileMetadata.rowsIn, ha, ha']
    decide
  obtain ⟨hv, hx, -, -, hs⟩ := readValues_of_uniform Sample.ready_openNumberReader hm hu hf hc
  obtain ⟨xs, h⟩ := hv.mpr hg
  use xs, (hx xs h).1
  rw [readRecords_eq]
  exact ⟨h, (hs Sample.ready_regroupedReader hm' hu' hc' hw xs).mpr h⟩

end BatchFile
