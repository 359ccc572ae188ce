import BatchFile.Proofs.Reader.Holds

/-!
# Reads in sound states

A reader is over contents in a sound state if it holds them and, should its stream be open
and the check of the framing be asked for, the contents pass that check.  Reading preserves
this (`over_read`), and what a read gives is then a function of the contents, `readIn`,
whatever the reader has been through (`read_of_over`).  The same holds of a stream that is open
over contents which have not been checked (`read_of_ready`).
-/

namespace BatchFile

namespace Reader

open Storage

variable {σ τ : Type} [Storage σ τ] {V : View σ τ} {c : Bytes} {r : Reader τ} {s : σ}
  {range : RowRange} {path : Path} {config : ReaderConfig}

/-! ### Streams of unchanged files -/

/-- The stream in hand shows the contents of the file at a path, and no call fails. -/
def ShowsFile (V : View σ τ) (path : Path) (c : Bytes) (x : τ × σ) : Prop :=
  V.Shows c x ∧ V.file? path x.2 = some c

theorem showsFile_of_steady {x y : τ × σ} (h : V.Steady x y) (hx : ShowsFile V path c x) :
  ShowsFile V path c y
  := ⟨h.shows hx.1, (h.1.file path).trans hx.2⟩

theorem yields_showsFile {α : Type} {x : Action (τ × σ) (Failure Error) α}
    {a : Except (Failure Error) α} {Q : τ × σ → Prop} (h : Action.Yields (V.Shows c) x a Q)
    (hm : Action.Moves V.Steady x) :
  Action.Yields (ShowsFile V path c) x a (ShowsFile V path c)
  := fun y hy => ⟨(h y hy.1).1, showsFile_of_steady (hm y) hy⟩

theorem length_lt_of_showsFile {x : τ × σ} (hx : ShowsFile V path c x) :
  c.length < Buffer.limit
  := V.length_lt hx.1.1 hx.2

theorem toNat_length_of_showsFile {x : τ × σ} (hx : ShowsFile V path c x) :
  (UInt64.ofNat c.length).toNat = c.length
  := Buffer.toNat_ofNat_of_lt (length_lt_of_showsFile hx)

theorem yields_size :
  Action.Yields (ShowsFile V path c)
    (Framing.onFile path (.onSecond (fileSize path))) (.ok (UInt64.ofNat c.length))
    (ShowsFile V path c)
  := by
  have h : Action.Yields (ShowsFile V path c) (.onSecond (fileSize path))
      (.ok (UInt64.ofNat c.length)) (ShowsFile V path c) := by
    intro x hx
    use V.fileSize_sound hx.1.1 hx.2
    apply showsFile_of_steady (V.moves_onSecond (V.moves_fileSize path) x) hx
  apply h.mapError (Failure.io path)

/-! ### Opening -/

/-- What the check of an open file over the contents gives. -/
def checkedIn (path : Path) (config : ReaderConfig) (c : Bytes) : Except (Failure Error) Unit :=
  if config.validateFraming then
    ((Framing.validateIn c).mapError (.dataFormat path)).map fun _ => ()
  else .ok ()

theorem checkedIn_eq_ok_iff :
  checkedIn path config c = .ok () ↔ (config.validateFraming = true → Framing.Valid c)
  := by
  rw [checkedIn]
  split
  · rename_i hv
    constructor
    · intro h _
      cases hc : Framing.validateIn c with
      | ok footerOffset => exact (Framing.validateIn_eq_ok_iff.mp hc).1
      | error e =>
        rw [hc] at h
        cases h
    · intro h
      rw [Framing.validateIn_eq_ok_iff.mpr ⟨h hv, rfl⟩]
      rfl
  · rename_i hv
    simp [hv]

theorem yields_checkOpened :
  Action.Yields (ShowsFile V path c) (checkOpened path config) (checkedIn path config c)
    (ShowsFile V path c)
  := by
  rw [checkOpened, checkedIn]
  split
  · apply yields_size.bind
    intro x hx
    have hv : Action.Yields (ShowsFile V path c)
        (Framing.validate path (UInt64.ofNat c.length))
        ((Framing.validateIn c).mapError (.dataFormat path)) (ShowsFile V path c) :=
      yields_showsFile (Framing.yields_validate (toNat_length_of_showsFile hx))
        (Framing.moves_validate V.frame.toStreamFrame path _)
    obtain ⟨y, hy, hs⟩ := hv.run hx
    rw [Action.bind_apply, hy]
    cases Framing.validateIn c <;> exact ⟨rfl, hs⟩
  · apply Action.Yields.pure ()

theorem keeping_fst {t : τ} {x : Action (τ × σ) (Failure Error) Unit} :
  ((keeping t x s).1.map fun _ => ()) = (x (t, s)).1
  := by
  rw [keeping]
  generalize x (t, s) = a
  obtain ⟨e | _, t₁, s₁⟩ := a <;> rfl

/-- In a sound state opening a file gives what the check of its contents gives. -/
theorem openStream_of_sound (hs : V.Sound s) (hf : V.file? path s = some c) :
  ((openStream path config s).1.map fun _ => ()) = checkedIn path config c
  := by
  have hr := V.kept_report (.opening path config.validateFraming) s
  have hf₁ := (hr.file path).trans hf
  rw [openStream]
  rw [Action.bind_apply_ok (Action.change_apply _ s)]
  generalize report (Event.opening path config.validateFraming) s = s₁ at hr hf₁
  obtain ⟨t, s₂, ho, hk, hx⟩ := V.openFile_of_sound (hr.sound hs) hf₁
  have hm : Framing.onFile path (openFile path) s₁ = (.ok t, s₂) :=
    Action.mapError_eq_ok_iff.mpr ho
  rw [Action.bind_apply_ok hm, keeping_fst]
  have hy : ShowsFile V path c (t, s₂) := ⟨hx, (hk.file path).trans hf₁⟩
  exact (yields_checkOpened (t, s₂) hy).1

/-! ### Being over contents -/

/-- The reader holds the contents, no call fails, and an open stream has passed the check that
the configuration asks for. -/
structure Over (V : View σ τ) (c : Bytes) (r : Reader τ) (s : σ) : Prop where
  sound : V.Sound s
  holds : Holds V c r s
  checked : r.isOpen = true → checkedIn r.path r.config c = .ok ()

theorem Over.of_kept {s' : σ} (h : Over V c r s) (hk : V.Kept s s') :
  Over V c r s'
  := ⟨hk.sound h.sound, holds_of_kept h.holds hk, h.checked⟩

/-- A reader over contents is opened if they pass the check. -/
theorem ensureOpen_of_over (h : Over V c r s) :
  ((ensureOpen r s).1.map fun _ => ()) = checkedIn r.path r.config c
  := by
  have hh := h.holds
  have hc := h.checked
  rw [Holds] at hh
  rw [isOpen] at hc
  rw [ensureOpen]
  cases hr : r.state with
  | unopened =>
    rw [hr] at hh
    apply openStream_of_sound h.sound hh
  | opened t =>
    rw [hr] at hc
    rw [hc rfl]
    rfl
  | closed =>
    rw [hr] at hh
    apply hh.elim

theorem checked_of_ensureOpen {t : τ} {s' : σ} (h : Over V c r s)
    (ho : ensureOpen r s = (.ok t, s')) :
  checkedIn r.path r.config c = .ok ()
  := by
  rw [← ensureOpen_of_over h, ho]
  rfl

/-- The stream that a reader over contents is opened with shows them. -/
theorem shows_of_ensureOpen {t : τ} {s' : σ} (h : Over V c r s)
    (ho : ensureOpen r s = (.ok t, s')) :
  V.Shows c (t, s')
  where
  left := (kept_of_ensureOpen V ho).sound h.sound
  right := ensureOpen_eq_ok h.holds ho

/-- A reader over contents that pass the check never has a seek into them refused. -/
theorem refusal?_of_over (h : Over V c r s) (hc : checkedIn r.path r.config c = .ok ())
    (p : UInt64) (hp : p.toNat ≤ c.length) :
  V.refusal? p = none
  := by
  have ho := ensureOpen_of_over h
  rcases hn : ensureOpen r s with ⟨e | t, s₁⟩
  · rw [hn, hc] at ho
    cases ho
  · obtain ⟨hs, hx⟩ := shows_of_ensureOpen h hn
    apply V.refusal?_eq_none hs hx hp

/-! ### Being ready -/

/-- The reader holds the contents, no call fails, and if its stream is still to be opened, then the
contents pass the check that the configuration asks for. -/
structure Ready (V : View σ τ) (c : Bytes) (r : Reader τ) (s : σ) : Prop where
  sound : V.Sound s
  holds : Holds V c r s
  checked : r.isOpen = false → checkedIn r.path r.config c = .ok ()

theorem Ready.exists_shows (h : Ready V c r s) :
  ∃ t s', ensureOpen r s = (.ok t, s') ∧ V.Shows c (t, s')
  := by
  have hh := h.holds
  rw [Holds] at hh
  cases hr : r.state with
  | unopened =>
    have hn : r.isOpen = false := by rw [isOpen, hr]
    have ho : Over V c r s := by
      use h.sound, h.holds
      intro hi
      rw [hn] at hi
      cases hi
    have he := (ensureOpen_of_over ho).trans (h.checked hn)
    rcases hx : ensureOpen r s with ⟨e | t, s'⟩
    · rw [hx] at he
      cases he
    · exact ⟨t, s', rfl, shows_of_ensureOpen ho hx⟩
  | opened t =>
    rw [hr] at hh
    exact ⟨t, s, ensureOpen_of_opened hr, h.sound, hh⟩
  | closed =>
    rw [hr] at hh
    apply hh.elim

/-- The file at the reader's path has the contents, if the reader has to look there for a
schema. -/
def Consults (V : View σ τ) (c : Bytes) (r : Reader τ) (s : σ) : Prop :=
  r.metadata.schema? = none → r.footerSchema? = none → V.file? r.path s = some c

/-- The last step of a read reports the answer and does not change it. -/
theorem bind_note_fst {ε : Type} {x : τ × σ} {y : Action (τ × σ) ε Answer}
    {e : Answer → Event} :
  ((y >>= fun answer => note (e answer) >>= fun _ => pure answer) x).1 = (y x).1
  := by
  rw [Action.bind_apply]
  generalize y x = a
  obtain ⟨e | answer, z⟩ := a <;> rfl

/-! ### Reading -/

variable [Ipc.Decoder]

/-- A reader stays over the contents when it reads, whatever the outcome. -/
theorem over_read (range : RowRange) (h : Over V c r s) :
  Over V c (read range (r, s)).2.1 (read range (r, s)).2.2
  := by
  have hk := kept_read V range r s
  have hh := holds_read range h.holds
  have hs := read_step range r s
  generalize read range (r, s) = a at hs hk hh
  refine ⟨hk.sound h.sound, hh, ?_⟩
  cases hs with
  | refused _ => apply h.checked
  | unopened _ _ => apply h.checked
  | failed _ ho _ =>
    have hc := checked_of_ensureOpen h ho
    exact fun _ => hc
  | answered _ ho _ =>
    have hc := checked_of_ensureOpen h ho
    exact fun _ => hc

/-! ### The schema of reads without rows -/

/-- The schema that is known, or else what reading the footer gives over the contents. -/
def schemaIn (path : Path) (known? : Option Schema) (c : Bytes) : Except (Failure Error) Schema :=
  match known? with
  | some schema => .ok schema
  | none => ((Framing.footerIn c).mapError (.dataFormat path)).map Prod.fst

theorem yields_footerSchema (known? : Option Schema) :
  Action.Yields (ShowsFile V path c) (footerSchema path known?) (schemaIn path known? c)
    (ShowsFile V path c)
  := by
  cases known? with
  | some schema => apply Action.Yields.pure schema
  | none =>
    apply yields_size.bind
    intro x hx
    have hf : Action.Yields (ShowsFile V path c)
        (Framing.readFooter path (UInt64.ofNat c.length))
        ((Framing.footerIn c).mapError (.dataFormat path)) (ShowsFile V path c) :=
      yields_showsFile
        (Framing.yields_readFooter (toNat_length_of_showsFile hx)
          (Framing.length_footerBytesIn_lt (length_lt_of_showsFile hx)))
        (Framing.moves_readFooter V.frame.toStreamFrame path _)
    obtain ⟨y, hy, hs⟩ := hf.run hx
    rw [Action.bind_apply, hy, schemaIn]
    cases Framing.footerIn c with
    | error e => exact ⟨rfl, hs⟩
    | ok a =>
      have hn : Action.Moves V.Steady
          (note (.footerSchemaRead path) : Action (τ × σ) (Failure Error) Unit) :=
        V.frame.moves_note _
      exact ⟨rfl, showsFile_of_steady (hn y) hs⟩

theorem answerEmpty_of_shows {x : τ × σ} (hx : V.Shows c x) (hf : Consults V c r x.2) :
  ((answerEmpty r x).1.map Answer.windows)
    = (schemaIn r.path (r.metadata.schema?.or r.footerSchema?) c).map fun schema =>
      [Window.empty schema]
  := by
  rw [answerEmpty]
  cases hm : r.metadata.schema? with
  | some schema => rfl
  | none =>
    cases hk : r.footerSchema? with
    | some schema => rfl
    | none =>
      obtain ⟨y, hy, -⟩ := (yields_footerSchema none).run
        (show ShowsFile V r.path c x from ⟨hx, hf hm hk⟩)
      simp only [Option.or_none]
      rw [Action.bind_apply, hy]
      cases schemaIn r.path none c <;> rfl

/-! ### What a read gives -/

/-- What reading the rows of a range gives over the contents. -/
def readIn (V : View σ τ) (path : Path) (config : ReaderConfig) (m : FileMetadata)
    (known? : Option Schema) (c : Bytes) (range : RowRange) :
    Except (Failure Error) (List Window) := do
  let plan := RowPlan.ofRange m.footer range
  let windows ← windowsIn V path config c plan.selections
  checkEnd path range plan.ending
  if windows = [] then
    (schemaIn path (m.schema?.or known?) c).map fun schema => [Window.empty schema]
  else
    return windows

/-- Of a plan that comes to its end the windows are given, if there are any. -/
theorem readIn_of_complete {ws : List Window} {known? : Option Schema} {m : FileMetadata}
    (he : (RowPlan.ofRange m.footer range).ending = .complete)
    (hw : windowsIn V path config c (RowPlan.ofRange m.footer range).selections = .ok ws) :
  readIn V path config m known? c range
    = if ws = [] then
        (schemaIn path (m.schema?.or known?) c).map fun schema => [Window.empty schema]
      else .ok ws
  := by
  rw [readIn]
  simp only [hw, he, checkEnd]
  rfl

/-- Without rows the schema is all that is asked for. -/
theorem readIn_of_limit_zero {known? : Option Schema} {m : FileMetadata} (hl : range.limit = 0) :
  readIn V path config m known? c range
    = (schemaIn path (m.schema?.or known?) c).map fun schema => [Window.empty schema]
  := by
  obtain ⟨hx, he⟩ := RowPlan.ofRange_of_limit_zero (f := m.footer) hl
  have hw : windowsIn V path config c (RowPlan.ofRange m.footer range).selections = .ok [] := by
    rw [hx]
    rfl
  rw [readIn_of_complete he hw, if_pos rfl]

theorem answerWindows_of_shows {x : τ × σ} {plan : RowPlan} {ws : List Window}
    (hx : V.Shows c x) (hf : ws = [] → Consults V c r x.2) :
  ((answerWindows r range plan ws x).1.map Answer.windows)
    = if ws = [] then
        (schemaIn r.path (r.metadata.schema?.or r.footerSchema?) c).map fun schema =>
          [Window.empty schema]
      else .ok ws
  := by
  rw [answerWindows]
  split
  · rename_i hw
    apply answerEmpty_of_shows hx (hf hw)
  · rfl

/-- Without rows a plan selects nothing; with rows a plan that comes to its end selects
something. -/
theorem windows_ne_nil {f : FileFooter} {n : UInt64} {ws : List Window}
    (hc : checkRange n range = .ok ()) (hl : range.limit ≠ 0)
    (he : (RowPlan.ofRange f range).ending = .complete)
    (hw : windowsIn V path config c (RowPlan.ofRange f range).selections = .ok ws) :
  ws ≠ []
  := by
  rintro rfl
  have hn := RowPlan.selections_ne_nil (behind_lt_of_checkRange hc) hl he
  generalize (RowPlan.ofRange f range).selections = xs at hw hn
  cases xs with
  | nil => apply hn rfl
  | cons x xs =>
    obtain ⟨_, _, h1⟩ := exceptBind_eq_ok_iff.mp hw
    obtain ⟨_, _, h2⟩ := exceptBind_eq_ok_iff.mp h1
    obtain ⟨_, _, h3⟩ := exceptBind_eq_ok_iff.mp h2
    cases h3

theorem readOpened_of_shows {x : τ × σ} (hx : V.Shows c x)
    (hc : checkRange r.metadata.recordCount range = .ok ())
    (hf : range.limit = 0 → Consults V c r x.2) :
  ((readOpened r range x).1.map Answer.windows)
    = readIn V r.path r.config r.metadata r.footerSchema? c range
  := by
  unfold readOpened readIn
  have hk := moves_readSelections V.frame.toStreamFrame r.path r.config
    (RowPlan.ofRange r.metadata.footer range).selections x
  obtain ⟨y, hy, hs⟩ := (yields_readSelections V r.path r.config
    (RowPlan.ofRange r.metadata.footer range).selections).run hx
  rw [hy] at hk
  simp only
  rw [Action.bind_apply, hy]
  cases hw : windowsIn V r.path r.config c
      (RowPlan.ofRange r.metadata.footer range).selections with
  | error e => rfl
  | ok ws =>
    simp only
    rw [Action.bind_apply, Action.ofExcept_apply]
    cases he : checkEnd r.path range (RowPlan.ofRange r.metadata.footer range).ending with
    | error e => rfl
    | ok _ =>
      simp only
      rw [bind_note_fst, answerWindows_of_shows hs]
      · rfl
      · intro hn hm hk'
        by_cases hl : range.limit = 0
        · exact (hk.1.file r.path).trans (hf hl hm hk')
        · exact (windows_ne_nil hc hl (checkEnd_eq_ok_iff.mp he) hw hn).elim

/-- What a reader over contents does once its stream is open. -/
theorem readOpened_of_over {t : τ} {s' : σ} (h : Over V c r s)
    (hc : checkRange r.metadata.recordCount range = .ok ())
    (hf : range.limit = 0 → Consults V c r s) (ho : ensureOpen r s = (.ok t, s')) :
  ((readOpened r range (t, s')).1.map Answer.windows)
    = readIn V r.path r.config r.metadata r.footerSchema? c range
  := by
  apply readOpened_of_shows (shows_of_ensureOpen h ho) hc
  intro hl hm hk
  apply ((kept_of_ensureOpen V ho).file r.path).trans
  apply hf hl hm hk

/-- What a read gives is a function of the contents that the reader is over. -/
theorem read_of_over (h : Over V c r s) (hf : range.limit = 0 → Consults V c r s) :
  (read range (r, s)).1
    = (do
        checkRange r.metadata.recordCount range
        checkedIn r.path r.config c
        readIn V r.path r.config r.metadata r.footerSchema? c range)
  := by
  have hs := read_step range r s
  generalize read range (r, s) = a at hs
  cases hs with
  | refused hc =>
    rw [hc]
    rfl
  | unopened hc ho =>
    rw [hc, ← ensureOpen_of_over h, ho]
    rfl
  | failed hc ho hr =>
    rw [hc, checked_of_ensureOpen h ho, ← readOpened_of_over h hc hf ho, hr]
    rfl
  | answered hc ho hr =>
    rw [hc, checked_of_ensureOpen h ho, ← readOpened_of_over h hc hf ho, hr]
    rfl

/-- What a read gives is a function of the contents. -/
theorem read_of_ready (h : Ready V c r s) (hc : checkRange r.metadata.recordCount range = .ok ())
    (hf : range.limit = 0 → Consults V c r s) :
  (read range (r, s)).1 = readIn V r.path r.config r.metadata r.footerSchema? c range
  := by
  obtain ⟨t, s', ho, hx⟩ := h.exists_shows
  have hq := readOpened_of_shows (r := r) hx hc fun hl hm hk =>
    ((kept_of_ensureOpen V ho).file r.path).trans (hf hl hm hk)
  rw [← hq]
  unfold read
  simp only [hc, ho]
  rcases readOpened r range (t, s') with ⟨e | answer, t₁, s₁⟩ <;> rfl

end Reader

end BatchFile
