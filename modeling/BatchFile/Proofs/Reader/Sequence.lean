import BatchFile.Proofs.FileMetadata.WellFormed
import BatchFile.Proofs.Reader.Remembers

/-!
# Reads one after another

While its file is unchanged, a reader stays up to date with it whatever it is asked for
(`UpToDate.read`), and so every read of a sequence gives what a new reader gives
(`readEach_eq_map`).  In particular it does not matter when and whether the schema is looked for:
a reader with loaded metadata and one without their schema give the same, read by read
(`readEach_of_load`).
-/

namespace BatchFile

namespace Reader

open Storage

variable {σ τ σ' τ' : Type} [Storage σ τ] [Storage σ' τ'] [Ipc.Decoder] {V : View σ τ}
  {W : View σ' τ'} {base : Path} {m : FileMetadata} {config : ReaderConfig} {c : Bytes}
  {range : RowRange}

/-! ### New readers -/

/-- What a new reader gives for a range. -/
def fresh (base : Path) (m : FileMetadata) (config : ReaderConfig) (s : σ) (range : RowRange) :
    Except (Failure Error) (List Window) :=
  (read range (new base m config, s)).1

theorem windowsIn_of_refusal (hr : W.refusal? = V.refusal?) (path : Path) (xs : List Selection) :
  windowsIn W path config c xs = windowsIn V path config c xs
  := by
  induction xs with
  | nil => rfl
  | cons x xs ih => rw [windowsIn, windowsIn, decodeIn, decodeIn, hr, ih]

theorem fresh_eq {s : σ} (hs : V.Sound s) (hf : V.file? (Path.join base m.path) s = some c) :
  fresh base m config s range
    = (do
        checkRange m.recordCount range
        checkedIn (Path.join base m.path) config c
        readIn V (Path.join base m.path) config m none c range)
  := by
  have ho : Over V c (new base m config : Reader τ) s := ⟨hs, hf, nofun⟩
  apply read_of_over ho fun _ _ _ => hf

/-- A new reader gives the same over two storages with the same file that refuse the same seeks. -/
theorem fresh_congr {s : σ} {s' : σ'} (hr : W.refusal? = V.refusal?) (hs : V.Sound s)
    (hf : V.file? (Path.join base m.path) s = some c) (hs' : W.Sound s')
    (hf' : W.file? (Path.join base m.path) s' = some c) :
  fresh base m config s' range = fresh base m config s range
  := by rw [fresh_eq hs hf, fresh_eq hs' hf', readIn, readIn, windowsIn_of_refusal hr]

/-! ### Readers of unchanged files -/

/-- A reader made with the given arguments is up to date with a file: the file has the contents,
the reader is over them, and what it remembers of them is right. -/
structure UpToDate (V : View σ τ) (base : Path) (m : FileMetadata) (config : ReaderConfig)
    (c : Bytes) (r : Reader τ) (s : σ) : Prop where
  path_eq : r.path = Path.join base m.path
  metadata_eq : r.metadata = m
  config_eq : r.config = config
  over_contents : Over V c r s
  file_eq : V.file? (Path.join base m.path) s = some c
  remembers : Remembers c r

section UpToDate

variable {r : Reader τ} {s : σ}

/-- A new reader is up to date. -/
theorem upToDate_new (hs : V.Sound s) (hf : V.file? (Path.join base m.path) s = some c) :
  UpToDate V base m config c (new base m config) s
  := ⟨rfl, rfl, rfl, ⟨hs, hf, nofun⟩, hf, nofun⟩

/-- A reader stays up to date when it reads, whatever the outcome. -/
theorem UpToDate.read (h : UpToDate V base m config c r s) (range : RowRange) :
  UpToDate V base m config c (read range (r, s)).2.1 (read range (r, s)).2.2
  := by
  obtain ⟨hp, hm, hc⟩ := read_fields range r s
  have hk := kept_read V range r s
  have hf : V.file? r.path s = some c := by
    rw [h.path_eq]
    apply h.file_eq
  exact ⟨hp.trans h.path_eq, hm.trans h.metadata_eq, hc.trans h.config_eq,
    over_read range h.over_contents, (hk.file _).trans h.file_eq,
    remembers_read range h.over_contents hf h.remembers⟩

/-- What a reader that is up to date gives does not depend on what it has been through. -/
theorem UpToDate.read_eq (h : UpToDate V base m config c r s) (range : RowRange) :
  (Reader.read range (r, s)).1
    = (do
        checkRange m.recordCount range
        checkedIn (Path.join base m.path) config c
        readIn V (Path.join base m.path) config m none c range)
  := by
  have hf : V.file? r.path s = some c := by
    rw [h.path_eq]
    apply h.file_eq
  rw [read_of_remembers h.over_contents fun _ _ => ⟨hf, h.remembers⟩, h.path_eq, h.metadata_eq,
    h.config_eq]

end UpToDate

/-! ### Sequences of reads -/

/-- What one reader gives for the ranges, one after another. -/
def readEach (x : Reader τ × σ) : List RowRange → List (Except (Failure Error) (List Window))
  | [] => []
  | range :: ranges => (read range x).1 :: readEach (read range x).2 ranges

/-- While the file is unchanged, each read of a sequence gives what a new reader gives. -/
theorem readEach_eq_map {r : Reader τ} {s s₀ : σ} (h : UpToDate V base m config c r s)
    (hs : V.Sound s₀) (hf : V.file? (Path.join base m.path) s₀ = some c)
    (ranges : List RowRange) :
  readEach (r, s) ranges = ranges.map (fresh base m config s₀)
  := by
  induction ranges generalizing r s with
  | nil => rfl
  | cons range ranges ih =>
    rw [readEach, List.map_cons, h.read_eq, ← fresh_eq hs hf]
    congr 1
    apply ih (h.read range)

/-! ### The schema of loaded metadata -/

/-- The footer of contents that have been loaded is read as loading has read it. -/
theorem footerIn_of_loadIn {path : Path} (h : FileMetadata.loadIn path c = .ok m) :
  ∃ schema, Framing.Valid c ∧ m.path = path ∧ m.schema? = some schema
    ∧ Framing.footerIn c = .ok (schema, m.footer)
  := by
  obtain ⟨schema, hw, hm⟩ := FileMetadata.loadIn_eq_ok_iff.mp h
  use schema, hw.toValid
  rw [Framing.footerIn_of_valid hw.toValid, FileMetadata.decodeFooter_eq_ok_iff]
  refine ⟨?_, ?_, hw.stored⟩
  · rw [hm]
    rfl
  · rw [hm]
    rfl

/-- A schema that the metadata have might as well have been read from the footer before. -/
theorem readIn_without_schema (path : Path) :
  readIn V path config { m with schema? := none } m.schema? c range
    = readIn V path config m none c range
  := by
  rw [readIn, readIn]
  simp only [Option.or_none, Option.none_or]

/-- If the schema of the metadata is that of the footer, it makes no difference whether the
metadata have it. -/
theorem fresh_without_schema {schema : Schema} {footer : FileFooter} {s s' : σ}
    (hm : m.schema? = some schema) (hc : Framing.footerIn c = .ok (schema, footer))
    (hs : V.Sound s) (hf : V.file? (Path.join base m.path) s = some c)
    (hs' : V.Sound s') (hf' : V.file? (Path.join base m.path) s' = some c) (range : RowRange) :
  fresh base { m with schema? := none } config s' range = fresh base m config s range
  := by
  have hn : fresh base { m with schema? := none } config s' range = _ := fresh_eq hs' hf'
  rw [hn, fresh_eq hs hf]
  simp only
  cases hk : checkRange m.recordCount range with
  | error e => rfl
  | ok _ =>
    have hr : readIn V (Path.join base m.path) config { m with schema? := none } none c range
        = readIn V (Path.join base m.path) config { m with schema? := none } m.schema? c range := by
      apply readIn_congr (m := { m with schema? := none }) hk rfl
      intro _
      rw [hm]
      simp only [schemaIn, Option.or_none, Option.none_or, hc]
      rfl
    rw [hr, readIn_without_schema]

/-- A read without rows gives one window over no rows, with the schema of the metadata. -/
theorem fresh_of_limit_zero {schema : Schema} {s : σ} (hm : m.schema? = some schema)
    (hs : V.Sound s) (hf : V.file? (Path.join base m.path) s = some c)
    (hv : config.validateFraming = true → Framing.Valid c)
    (hc : checkRange m.recordCount range = .ok ()) (hl : range.limit = 0) :
  fresh base m config s range = .ok [Window.empty schema]
  := by
  rw [fresh_eq hs hf, hc, checkedIn_eq_ok_iff.mpr hv, readIn_of_limit_zero hl, hm]
  rfl

/-- Let metadata be loaded from a file that is unchanged afterwards.  A reader that is given them
and one that is given them without their schema come to the same with every read of a sequence,
whatever the outcome and wherever in it the second one has to read the footer; and every read
without rows gives the schema that was loaded. -/
theorem readEach_of_load {path : Path} {s s₁ s₂ : σ} (hs : V.Sound s)
    (hf : V.file? (Path.join base path) s = some c)
    (hl : (FileMetadata.load base path s).1 = .ok m)
    (hs₁ : V.Sound s₁) (hf₁ : V.file? (Path.join base path) s₁ = some c)
    (hs₂ : V.Sound s₂) (hf₂ : V.file? (Path.join base path) s₂ = some c)
    (config : ReaderConfig) (ranges : List RowRange) :
  readEach (new base { m with schema? := none } config, s₂) ranges
    = readEach (new base m config, s₁) ranges
  ∧ ∃ schema, m.schema? = some schema ∧ ∀ (i : Nat) (range : RowRange), ranges[i]? = some range →
    range.limit = 0 → checkRange m.recordCount range = .ok () →
    (readEach (new base { m with schema? := none } config, s₂) ranges)[i]?
      = some (.ok [Window.empty schema])
  := by
  rw [FileMetadata.load_of_sound hs hf] at hl
  obtain ⟨schema, hv, rfl, hm, hc⟩ : ∃ schema, Framing.Valid c ∧ m.path = path
      ∧ m.schema? = some schema ∧ Framing.footerIn c = .ok (schema, m.footer) := by
    cases hi : FileMetadata.loadIn path c with
    | error d =>
      rw [hi] at hl
      cases hl
    | ok m' =>
      rw [hi] at hl
      cases hl
      apply footerIn_of_loadIn hi
  have hn : readEach (new base { m with schema? := none } config, s₂) ranges
      = ranges.map (fresh base m config s₁) := by
    have hu : UpToDate V base { m with schema? := none } config c
        (new base { m with schema? := none } config) s₂ := upToDate_new hs₂ hf₂
    rw [readEach_eq_map hu hs₂ hf₂]
    apply List.map_congr_left
    intro range _
    apply fresh_without_schema hm hc hs₁ hf₁ hs₂ hf₂
  constructor
  · rw [hn, readEach_eq_map (upToDate_new hs₁ hf₁) hs₁ hf₁]
  · use schema, hm
    intro i range hi hl hk
    rw [hn, List.getElem?_map, hi]
    exact congrArg some (fresh_of_limit_zero hm hs₁ hf₁ (fun _ => hv) hk hl)

end Reader

/-! ### The sample file -/

/-- The sample file can be loaded. -/
theorem Sample.exists_load :
  ∃ m, (FileMetadata.load "" "n" numberStore).1 = .ok m
  := by
  have hf : MemoryStore.view.file? (Path.join "" "n") numberStore = some numberFile.toBytes.1 :=
    holds_numberReader
  rw [FileMetadata.load_of_sound sound_numberStore hf]
  apply exists_of_isOk
  decide +kernel

/-- The footer is read between two reads of rows and is known from then on; one of the ranges does
not lie in the file. -/
theorem Reader.readEach_of_load_numbers :
  ∃ m, (FileMetadata.load "" "n" Sample.numberStore).1 = .ok m
    ∧ readEach (new "" { m with schema? := none } ⟨true, true⟩, Sample.numberStore)
        [⟨1, 3⟩, ⟨2, 0⟩, ⟨4, 2⟩, ⟨0, 0⟩, ⟨0, 5⟩]
      = readEach (new "" m ⟨true, true⟩, Sample.numberStore)
        [⟨1, 3⟩, ⟨2, 0⟩, ⟨4, 2⟩, ⟨0, 0⟩, ⟨0, 5⟩]
  := by
  obtain ⟨m, hm⟩ := Sample.exists_load
  have hf : MemoryStore.view.file? (Path.join "" "n") Sample.numberStore
      = some Sample.numberFile.toBytes.1 := Sample.holds_numberReader
  use m, hm
  exact (readEach_of_load Sample.sound_numberStore hf hm Sample.sound_numberStore hf
    Sample.sound_numberStore hf ⟨true, true⟩ _).1

end BatchFile
