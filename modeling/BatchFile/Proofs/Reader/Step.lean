import BatchFile.Proofs.Framing
import BatchFile.Proofs.Reader.Decode

/-!
# What one read changes

A read can go in four ways (`read_step`).  Whichever it goes, it leaves everything that can
be seen of the storage as it is (`kept_read`).
-/

namespace BatchFile

namespace Reader

open Storage

variable {σ τ : Type} [Storage σ τ] (V : View σ τ) (F : Frame σ τ)

/-! ### What actions leave alone -/

theorem moves_checkOpened (path : Path) (config : ReaderConfig) :
  Action.Moves F.Rel (checkOpened path config : Action (τ × σ) (Failure Error) Unit)
  := by
  rw [checkOpened]
  split
  · apply Action.Moves.bind ((F.moves_fileSize path).mapError _)
    intro size
    apply Action.Moves.bind (Framing.moves_validate F.toStreamFrame path size)
    intro _
    exact Action.Moves.pure ()
  · exact Action.Moves.pure ()

theorem moves_openStream (path : Path) (config : ReaderConfig) :
  Action.Moves V.Kept (openStream path config : Action σ (Failure Error) τ)
  := by
  apply Action.Moves.bind (V.moves_report _)
  intro _
  apply Action.Moves.bind ((V.moves_openFile path).mapError _)
  intro t
  apply V.moves_keeping (moves_checkOpened V.frame path config)

theorem moves_ensureOpen (r : Reader τ) :
  Action.Moves V.Kept (ensureOpen r : Action σ (Failure Error) τ)
  := by
  rw [ensureOpen]
  cases r.state with
  | unopened => apply moves_openStream V r.path r.config
  | opened t => exact Action.Moves.pure t
  | closed => exact Action.Moves.fail _

theorem kept_of_ensureOpen {r : Reader τ} {s s' : σ} {x : Except (Failure Error) τ}
    (ho : ensureOpen r s = (x, s')) :
  V.Kept s s'
  := by
  have h := moves_ensureOpen V r s
  rwa [ho] at h

/-! ### Opening and closing -/

theorem ensureOpen_of_unopened {r : Reader τ} {s : σ} (h : r.state = .unopened) :
  (ensureOpen r : Action σ (Failure Error) τ) s = openStream r.path r.config s
  := by rw [ensureOpen, h]

theorem ensureOpen_of_opened {r : Reader τ} {s : σ} {t : τ} (h : r.state = .opened t) :
  (ensureOpen r : Action σ (Failure Error) τ) s = (.ok t, s)
  := by
  rw [ensureOpen, h]
  rfl

theorem ensureOpen_of_closed {r : Reader τ} {s : σ} (h : r.state = .closed) :
  (ensureOpen r : Action σ (Failure Error) τ) s = (.error (.closed r.path), s)
  := by
  rw [ensureOpen, h]
  rfl

/-- Closing changes nothing but the state of a reader. -/
theorem close_fst (r : Reader τ) (s : σ) :
  (r.close s).1 = { r with state := .closed }
  := by
  rw [close]
  cases r.state <;> rfl

theorem close_of_closed {r : Reader τ} {s : σ} (h : r.state = .closed) :
  r.close s = (r, s)
  := by
  rw [close, h]
  cases r
  cases h
  rfl

/-! ### Reading from an open stream -/

variable [Ipc.Decoder]

theorem moves_footerSchema (path : Path) (known? : Option Schema) :
  Action.Moves F.Rel (footerSchema path known? : Action (τ × σ) (Failure Error) Schema)
  := by
  cases known? with
  | some schema => exact Action.Moves.pure schema
  | none =>
    apply Action.Moves.bind ((F.moves_fileSize path).mapError _)
    intro size
    apply Action.Moves.bind (Framing.moves_readFooter F.toStreamFrame path size)
    rintro ⟨schema, footer⟩
    apply Action.Moves.bind (F.moves_note _)
    intro _
    exact Action.Moves.pure schema

theorem moves_answerEmpty (r : Reader τ) :
  Action.Moves F.Rel (answerEmpty r : Action (τ × σ) (Failure Error) Answer)
  := by
  rw [answerEmpty]
  cases r.metadata.schema? with
  | some schema => exact Action.Moves.pure _
  | none =>
    apply Action.Moves.bind (moves_footerSchema F r.path r.footerSchema?)
    intro schema
    exact Action.Moves.pure _

theorem moves_answerWindows (r : Reader τ) (range : RowRange) (plan : RowPlan)
    (ws : List Window) :
  Action.Moves F.Rel (answerWindows r range plan ws : Action (τ × σ) (Failure Error) Answer)
  := by
  rw [answerWindows]
  split
  · apply moves_answerEmpty F r
  · exact Action.Moves.pure _

theorem moves_readOpened (r : Reader τ) (range : RowRange) :
  Action.Moves F.Rel (readOpened r range : Action (τ × σ) (Failure Error) Answer)
  := by
  apply Action.Moves.bind (moves_readSelections F.toStreamFrame r.path r.config _)
  intro ws
  refine Action.Moves.bind (Action.Moves.ofExcept _) ?_
  intro _
  apply Action.Moves.bind (moves_answerWindows F r range _ ws)
  intro answer
  apply Action.Moves.bind (F.moves_note _)
  intro _
  exact Action.Moves.pure answer

/-! ### The ways in which a read can go -/

/-- What a read gives and leaves: the range is refused, the file cannot be opened, the
open stream does not give the rows, or there is an answer. -/
inductive ReadStep (range : RowRange) (r : Reader τ) (s : σ) :
    Except (Failure Error) (List Window) × (Reader τ × σ) → Prop where
  | refused {e : Failure Error} (hc : checkRange r.metadata.recordCount range = .error e) :
    ReadStep range r s (.error e, (r, s))
  | unopened {e : Failure Error} {s' : σ} (hc : checkRange r.metadata.recordCount range = .ok ())
      (ho : ensureOpen r s = (.error e, s')) :
    ReadStep range r s (.error e, (r, s'))
  | failed {t t' : τ} {s₁ s₂ : σ} {e : Failure Error}
      (hc : checkRange r.metadata.recordCount range = .ok ())
      (ho : ensureOpen r s = (.ok t, s₁))
      (hr : readOpened r range (t, s₁) = (.error e, (t', s₂))) :
    ReadStep range r s (.error e, ({ r with state := .opened t' }, s₂))
  | answered {t t' : τ} {s₁ s₂ : σ} {answer : Answer}
      (hc : checkRange r.metadata.recordCount range = .ok ())
      (ho : ensureOpen r s = (.ok t, s₁))
      (hr : readOpened r range (t, s₁) = (.ok answer, (t', s₂))) :
    ReadStep range r s (.ok answer.windows,
      ({ r with
          state := .opened t'
          footerSchema? := answer.footerSchema?
          stats := r.stats.merge answer.work }, s₂))

/-- Every read goes in one of these ways. -/
theorem read_step (range : RowRange) (r : Reader τ) (s : σ) :
  ReadStep range r s (read range (r, s))
  := by
  unfold read
  simp only
  split
  · rename_i hc
    exact .refused hc
  rename_i hc
  split
  · rename_i ho
    exact .unopened hc ho
  rename_i ho
  split
  · rename_i hr
    exact .failed hc ho hr
  · rename_i hr
    exact .answered hc ho hr

/-- A read of a reader that cannot be opened leaves the reader as it is. -/
theorem read_eq_of_ensureOpen {range : RowRange} {r : Reader τ} {s s' : σ} {e : Failure Error}
    (hc : checkRange r.metadata.recordCount range = .ok ())
    (ho : ensureOpen r s = (.error e, s')) :
  read range (r, s) = (.error e, (r, s'))
  := by
  unfold read
  simp only [hc, ho]

/-- A reader that has been closed refuses every read of a range that the file has, and asks
nothing of the storage. -/
theorem read_eq_of_closed {range : RowRange} {r : Reader τ} {s : σ} (h : r.state = .closed)
    (hc : checkRange r.metadata.recordCount range = .ok ()) :
  read range (r, s) = (.error (.closed r.path), (r, s))
  := read_eq_of_ensureOpen hc (ensureOpen_of_closed h)

theorem steady_of_readOpened {r : Reader τ} {range : RowRange} {x y : τ × σ}
    {a : Except (Failure Error) Answer} (hr : readOpened r range x = (a, y)) :
  V.Steady x y
  := by
  have h := moves_readOpened V.frame r range x
  rwa [hr] at h

/-- A read changes nothing that can be seen of the storage. -/
theorem kept_read (range : RowRange) (r : Reader τ) (s : σ) :
  V.Kept s (read range (r, s)).2.2
  := by
  have h := read_step range r s
  generalize read range (r, s) = a at h
  cases h with
  | refused _ => apply Std.Refl.refl s
  | unopened _ ho => apply kept_of_ensureOpen V ho
  | failed _ ho hr =>
    apply Trans.trans (kept_of_ensureOpen V ho) (steady_of_readOpened V hr).1
  | answered _ ho hr =>
    apply Trans.trans (kept_of_ensureOpen V ho) (steady_of_readOpened V hr).1

/-- A read leaves the path, the metadata and the configuration of the reader alone. -/
theorem read_fields (range : RowRange) (r : Reader τ) (s : σ) :
  (read range (r, s)).2.1.path = r.path ∧ (read range (r, s)).2.1.metadata = r.metadata
    ∧ (read range (r, s)).2.1.config = r.config
  := by
  have h := read_step range r s
  generalize read range (r, s) = a at h
  cases h <;> exact ⟨rfl, rfl, rfl⟩

/-- A read that fails does not count, and finds no schema. -/
theorem read_fields_of_error {range : RowRange} {r : Reader τ} {s : σ} {e : Failure Error}
    (h : (read range (r, s)).1 = .error e) :
  (read range (r, s)).2.1.stats = r.stats
    ∧ (read range (r, s)).2.1.footerSchema? = r.footerSchema?
  := by
  have hs := read_step range r s
  generalize read range (r, s) = a at hs h
  cases hs with
  | refused _ => exact ⟨rfl, rfl⟩
  | unopened _ _ => exact ⟨rfl, rfl⟩
  | failed _ _ _ => exact ⟨rfl, rfl⟩
  | answered _ _ _ => cases h

end Reader

end BatchFile
