import BatchFile.Proofs.FileMetadata
import BatchFile.Proofs.Reader.Step
import BatchFile.Proofs.Storage.Ledger

/-!
# Streams that readers hold

A reader holds the stream that it has open, and nothing else.  Loading metadata, reading and
closing leave the books of a ledger in order (`FileMetadata.balanced_load`,
`Reader.balanced_read`, `Reader.balanced_close`), whichever of the calls on the way fail.  The
state of a reader only goes forward (`Reader.advances_read`, `Reader.advances_close`), and a
reader whose stream has been opened asks for no other (`Reader.books_read`).
-/

namespace BatchFile

open Storage Ledger

variable {σ τ : Type} [Storage σ τ] {others : List Nat} {l l' : Ledger (Observed σ)}

/-- Loading gives back the stream that it opens. -/
theorem FileMetadata.balanced_load [Ipc.Decoder] (base path : Path) (h : l.books.Balanced others) :
  (load base path l).2.books.Balanced others
  := by
  rw [load]
  have hf := books_fileSize (Path.join base path) l
  rw [← hf] at h
  rw [Action.bind_apply, Framing.onFile, Action.mapError_apply]
  generalize fileSize (Path.join base path) l = a at h
  obtain ⟨e | size, l₁⟩ := a
  · apply h
  have ho := balanced_openFile (Path.join base path) h
  simp only
  rw [Action.bind_apply, Framing.onFile, Action.mapError_apply]
  generalize openFile (Path.join base path) l₁ = a at ho
  obtain ⟨e | t, l₂⟩ := a
  · apply ho
  · apply balanced_releasing (moves_read frame.toStreamFrame _ path size) ho

namespace Reader

variable {r : Reader (Numbered τ)} {t : Numbered τ}

/-- The number of the stream that a reader holds, if it holds one. -/
def held (r : Reader (Numbered τ)) : List Nat :=
  match r.state with
  | .opened t => [t.number]
  | _ => []

theorem held_of_opened (h : r.state = .opened t) :
  r.held = [t.number]
  := by rw [held, h]

theorem held_of_unopened (h : r.state = .unopened) :
  r.held = []
  := by rw [held, h]

theorem held_of_closed (h : r.state = .closed) :
  r.held = []
  := by rw [held, h]

theorem length_held (r : Reader (Numbered τ)) :
  r.held.length = if r.isOpen then 1 else 0
  := by
  rw [held, isOpen]
  cases r.state <;> rfl

/-! ### Opening -/

/-- A stream that has been opened for a reader is held by it; if it cannot be used, it has been
given back. -/
theorem balanced_openStream (path : Path) (config : ReaderConfig) (h : l.books.Balanced others) :
  (openStream path config l).2.books.Balanced (heldBy (openStream path config l).1 ++ others)
  := by
  rw [openStream]
  rw [Action.bind_apply_ok (Action.change_apply _ l)]
  rw [← books_report (.opening path config.validateFraming) l] at h
  generalize report (.opening path config.validateFraming) l = l₁ at h
  have ho := balanced_openFile path h
  rw [Action.bind_apply, Framing.onFile, Action.mapError_apply]
  generalize openFile path l₁ = a at ho
  obtain ⟨e | t, l₂⟩ := a
  · apply ho
  · apply balanced_keeping (moves_checkOpened frame path config) ho

/-- The stream that a reader is opened with is held by it. -/
theorem balanced_of_ensureOpen (h : l.books.Balanced (r.held ++ others))
    (ho : ensureOpen r l = (.ok t, l')) :
  l'.books.Balanced (t.number :: others)
  := by
  cases hr : r.state with
  | unopened =>
    rw [held_of_unopened hr] at h
    have hb := balanced_openStream r.path r.config h
    rw [ensureOpen_of_unopened hr] at ho
    rwa [ho] at hb
  | opened t₁ =>
    rw [held_of_opened hr] at h
    rw [ensureOpen_of_opened hr] at ho
    cases ho
    apply h
  | closed =>
    rw [ensureOpen_of_closed hr] at ho
    cases ho

/-- A reader that cannot be opened holds what it has held. -/
theorem balanced_of_ensureOpen_error {e : Failure Error} (h : l.books.Balanced (r.held ++ others))
    (ho : ensureOpen r l = (.error e, l')) :
  l'.books.Balanced (r.held ++ others)
  := by
  cases hr : r.state with
  | unopened =>
    rw [held_of_unopened hr] at h ⊢
    have hb := balanced_openStream r.path r.config h
    rw [ensureOpen_of_unopened hr] at ho
    rwa [ho] at hb
  | opened t₁ =>
    rw [ensureOpen_of_opened hr] at ho
    cases ho
  | closed =>
    rw [ensureOpen_of_closed hr] at ho
    cases ho
    apply h

/-! ### Closing -/

theorem held_close (r : Reader (Numbered τ)) (l : Ledger (Observed σ)) :
  (r.close l).1.held = []
  := by
  rw [close_fst]
  rfl

/-- A reader that has been closed has given its stream back. -/
theorem balanced_close (h : l.books.Balanced (r.held ++ others)) :
  (r.close l).2.books.Balanced ((r.close l).1.held ++ others)
  := by
  rw [held_close, close]
  cases hr : r.state with
  | unopened =>
    rw [held_of_unopened hr] at h
    apply h
  | opened t =>
    rw [held_of_opened hr] at h
    apply h.takeBack
  | closed =>
    rw [held_of_closed hr] at h
    apply h

/-! ### The state of a reader -/

/-- How the state of a reader can change: a reader may be opened once, goes on with the stream
that it has been opened with, and may be closed for good. -/
inductive Advances : StreamState (Numbered τ) → StreamState (Numbered τ) → Prop where
  | waits : Advances .unopened .unopened
  | opens (t : Numbered τ) : Advances .unopened (.opened t)
  | goesOn {t t' : Numbered τ} (h : t'.number = t.number) : Advances (.opened t) (.opened t')
  | closes (x : StreamState (Numbered τ)) : Advances x .closed

theorem Advances.refl (x : StreamState (Numbered τ)) :
  Advances x x
  := by
  cases x with
  | unopened => exact .waits
  | opened t => exact .goesOn rfl
  | closed => exact .closes _

/-- A reader that has been opened goes on with a stream of the same number, or has been opened
for the first time. -/
theorem advances_of_ensureOpen {t' : Numbered τ} (ho : ensureOpen r l = (.ok t, l'))
    (hn : t'.number = t.number) :
  Advances r.state (.opened t')
  := by
  cases hr : r.state with
  | unopened => exact .opens t'
  | opened t₁ =>
    rw [ensureOpen_of_opened hr] at ho
    cases ho
    exact .goesOn hn
  | closed =>
    rw [ensureOpen_of_closed hr] at ho
    cases ho

theorem advances_close (r : Reader (Numbered τ)) (l : Ledger (Observed σ)) :
  Advances r.state (r.close l).1.state
  := by
  rw [close_fst]
  exact .closes _

/-! ### Reading -/

variable [Ipc.Decoder]

theorem frame_of_readOpened {range : RowRange} {x y : Numbered τ × Ledger (Observed σ)}
    {a : Except (Failure Error) Answer} (hr : readOpened r range x = (a, y)) :
  frame.Rel x y
  := by
  have h := moves_readOpened frame r range x
  rwa [hr] at h

/-- A reader holds at most its stream after a read, whatever the outcome, and all other streams
that have been opened meanwhile have been given back. -/
theorem balanced_read (range : RowRange) (h : l.books.Balanced (r.held ++ others)) :
  (read range (r, l)).2.2.books.Balanced ((read range (r, l)).2.1.held ++ others)
  := by
  have hs := read_step range r l
  generalize read range (r, l) = a at hs
  cases hs with
  | refused _ => apply h
  | unopened _ ho => apply balanced_of_ensureOpen_error h ho
  | failed _ ho hr =>
    obtain ⟨hb, hn⟩ := frame_of_readOpened hr
    show Books.Balanced (_ :: others) _
    rw [hb, hn]
    apply balanced_of_ensureOpen h ho
  | answered _ ho hr =>
    obtain ⟨hb, hn⟩ := frame_of_readOpened hr
    show Books.Balanced (_ :: others) _
    rw [hb, hn]
    apply balanced_of_ensureOpen h ho

/-- A reader that has opened its stream before asks for no other. -/
theorem books_read (range : RowRange) (h : r.state ≠ .unopened) :
  (read range (r, l)).2.2.books = l.books
  := by
  have hk : ∀ {a l'}, ensureOpen r l = (a, l') → l'.books = l.books := by
    intro a l' ho
    cases hr : r.state with
    | unopened => exact (h hr).elim
    | opened t =>
      rw [ensureOpen_of_opened hr] at ho
      rw [(Prod.mk.inj ho).2]
    | closed =>
      rw [ensureOpen_of_closed hr] at ho
      rw [(Prod.mk.inj ho).2]
  have hs := read_step range r l
  generalize read range (r, l) = a at hs
  cases hs with
  | refused _ => rfl
  | unopened _ ho => apply hk ho
  | failed _ ho hr => exact (frame_of_readOpened hr).1.trans (hk ho)
  | answered _ ho hr => exact (frame_of_readOpened hr).1.trans (hk ho)

theorem advances_read (range : RowRange) (r : Reader (Numbered τ)) (l : Ledger (Observed σ)) :
  Advances r.state (read range (r, l)).2.1.state
  := by
  have hs := read_step range r l
  generalize read range (r, l) = a at hs
  cases hs with
  | refused _ => apply Advances.refl
  | unopened _ _ => apply Advances.refl
  | failed _ ho hr => apply advances_of_ensureOpen ho (frame_of_readOpened hr).2
  | answered _ ho hr => apply advances_of_ensureOpen ho (frame_of_readOpened hr).2

end Reader

end BatchFile
