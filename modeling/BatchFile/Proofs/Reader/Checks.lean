import BatchFile.Proofs.Reader.Sequence

/-!
# Checks are advisory

A configuration weakens another if it asks for no check that the other one does not ask for.
Whatever is read under a configuration is read just so under one that weakens it
(`fresh_of_weakens`): a check can refuse a read, but it never decides what is read.  Over contents
whose framing is valid, the check of the framing cannot even do that, and no read of a sequence
depends on it (`results_of_weakens`).
-/

namespace BatchFile

/-- Every check that the configuration asks for is asked for by the other one. -/
structure ReaderConfig.Weakens (a b : ReaderConfig) : Prop where
  validateFraming : a.validateFraming = true → b.validateFraming = true
  verifyRowCounts : a.verifyRowCounts = true → b.verifyRowCounts = true

namespace Reader

open Storage

variable {σ τ : Type} [Storage σ τ] {V : View σ τ} {path base : Path} {m : FileMetadata}
  {config a b : ReaderConfig} {c : Bytes} {range : RowRange}

/-! ### Fewer checks -/

theorem checkedIn_of_weakens (h : a.Weakens b) (hc : checkedIn path b c = .ok ()) :
  checkedIn path a c = .ok ()
  := by
  rw [checkedIn_eq_ok_iff] at hc ⊢
  intro hv
  apply hc (h.validateFraming hv)

/-- The row count of a batch decides only whether there is a window, and not which. -/
theorem cut_of_weakens (h : a.Weakens b) {x : Selection} {batch : RecordBatch} {w : Window}
    (hw : cut path b x batch = .ok w) :
  cut path a x batch = .ok w
  := by
  obtain ⟨hx, hn⟩ := cut_eq_ok_iff.mp hw
  apply cut_eq_ok_iff.mpr
  use hx
  intro hv
  apply hn (h.verifyRowCounts hv)

variable [Ipc.Decoder]

theorem windowsIn_of_weakens (h : a.Weakens b) {xs : List Selection} {ws : List Window}
    (hw : windowsIn V path b c xs = .ok ws) :
  windowsIn V path a c xs = .ok ws
  := by
  induction xs generalizing ws with
  | nil => apply hw
  | cons x xs ih =>
    obtain ⟨batch, h1, hw⟩ := exceptBind_eq_ok_iff.mp hw
    obtain ⟨w, h2, hw⟩ := exceptBind_eq_ok_iff.mp hw
    obtain ⟨ws', h3, hw⟩ := exceptBind_eq_ok_iff.mp hw
    apply exceptBind_eq_ok_iff.mpr
    use batch, h1
    apply exceptBind_eq_ok_iff.mpr
    use w, cut_of_weakens h h2
    apply exceptBind_eq_ok_iff.mpr
    use ws', ih h3, hw

theorem readIn_of_weakens (h : a.Weakens b) {known? : Option Schema} {ws : List Window}
    (hw : readIn V path b m known? c range = .ok ws) :
  readIn V path a m known? c range = .ok ws
  := by
  obtain ⟨ws', h1, hw⟩ := exceptBind_eq_ok_iff.mp hw
  apply exceptBind_eq_ok_iff.mpr
  use ws', windowsIn_of_weakens h h1, hw

/-- What a new reader reads is read by a new reader that asks for fewer checks. -/
theorem fresh_of_weakens (h : a.Weakens b) {s s' : σ} {ws : List Window} (hs : V.Sound s)
    (hf : V.file? (Path.join base m.path) s = some c) (hs' : V.Sound s')
    (hf' : V.file? (Path.join base m.path) s' = some c) (hr : fresh base m b s range = .ok ws) :
  fresh base m a s' range = .ok ws
  := by
  rw [fresh_eq hs hf] at hr
  rw [fresh_eq hs' hf']
  obtain ⟨_, h1, hr⟩ := exceptBind_eq_ok_iff.mp hr
  obtain ⟨_, h2, hr⟩ := exceptBind_eq_ok_iff.mp hr
  rw [h1, checkedIn_of_weakens h h2]
  apply readIn_of_weakens h hr

/-! ### Valid framing -/

/-- The windows of selections do not depend on the check of the framing. -/
theorem windowsIn_withFramingValidation (enabled : Bool) (xs : List Selection) :
  windowsIn V path (config.withFramingValidation enabled) c xs = windowsIn V path config c xs
  := by
  induction xs with
  | nil => rfl
  | cons x xs ih =>
    rw [windowsIn, windowsIn, ih]
    rfl

/-- Over valid contents a new reader gives the same whether or not it checks the framing. -/
theorem fresh_withFramingValidation (hv : Framing.Valid c) (enabled : Bool) {s s' : σ}
    (hs : V.Sound s) (hf : V.file? (Path.join base m.path) s = some c) (hs' : V.Sound s')
    (hf' : V.file? (Path.join base m.path) s' = some c) (range : RowRange) :
  fresh base m (config.withFramingValidation enabled) s' range = fresh base m config s range
  := by
  have hc : ∀ config, checkedIn (Path.join base m.path) config c = .ok () :=
    fun _ => checkedIn_eq_ok_iff.mpr fun _ => hv
  rw [fresh_eq hs hf, fresh_eq hs' hf', hc, hc, readIn, readIn, windowsIn_withFramingValidation]

/-- Whatever a new reader reads, a new reader over the same file that asks for fewer checks reads
it too, and gives the same windows.  If the framing of the file is valid, then it makes no
difference to any read of a sequence, whatever its outcome, whether the framing is checked. -/
theorem results_of_weakens {s s' : σ} (hs : V.Sound s)
    (hf : V.file? (Path.join base m.path) s = some c) (hs' : V.Sound s')
    (hf' : V.file? (Path.join base m.path) s' = some c) :
  (∀ (a b : ReaderConfig) (range : RowRange) (ws : List Window), a.Weakens b →
    (read range (new base m b, s)).1 = .ok ws → (read range (new base m a, s')).1 = .ok ws)
  ∧ (Framing.Valid c → ∀ (config : ReaderConfig) (enabled : Bool) (ranges : List RowRange),
    readEach (new base m (config.withFramingValidation enabled), s') ranges
      = readEach (new base m config, s) ranges)
  := by
  constructor
  · intro a b range ws h hr
    apply fresh_of_weakens h hs hf hs' hf' hr
  · intro hv config enabled ranges
    rw [readEach_eq_map (upToDate_new hs hf) hs hf, readEach_eq_map (upToDate_new hs' hf') hs' hf']
    apply List.map_congr_left
    intro range _
    apply fresh_withFramingValidation hv enabled hs hf hs' hf'

end Reader

/-- What is read of the sample file with both checks is read without them; and with metadata that
the file does not agree with, five reads, some of which fail, go the same way whether or not the
framing is checked. -/
theorem Reader.results_of_weakens_numbers :
  (∃ ws, (read ⟨1, 3⟩ (new "" Sample.numberMetadata ⟨true, true⟩, Sample.numberStore)).1 = .ok ws
    ∧ (read ⟨1, 3⟩ (new "" Sample.numberMetadata ⟨false, false⟩, Sample.numberStore)).1 = .ok ws)
  ∧ readEach (new "" Sample.wrongMetadata ⟨false, true⟩, Sample.numberStore)
      [⟨0, 2⟩, ⟨1, 5⟩, ⟨0, 0⟩, ⟨5, 9⟩, ⟨4, 1⟩]
    = readEach (new "" Sample.wrongMetadata ⟨true, true⟩, Sample.numberStore)
      [⟨0, 2⟩, ⟨1, 5⟩, ⟨0, 0⟩, ⟨5, 9⟩, ⟨4, 1⟩]
  := by
  have hf : MemoryStore.view.file? (Path.join "" "n") Sample.numberStore
      = some Sample.numberFile.toBytes.1 := Sample.holds_numberReader
  obtain ⟨ws, hr⟩ := Sample.exists_read_new ⟨true, true⟩
  constructor
  · have h := results_of_weakens (m := Sample.numberMetadata) Sample.sound_numberStore hf
      Sample.sound_numberStore hf
    exact ⟨ws, hr, h.1 ⟨false, false⟩ ⟨true, true⟩ ⟨1, 3⟩ ws ⟨nofun, nofun⟩ hr⟩
  · have h := results_of_weakens (m := Sample.wrongMetadata) Sample.sound_numberStore hf
      Sample.sound_numberStore hf
    apply h.2 Sample.valid_numberFile ⟨true, true⟩ false

end BatchFile
