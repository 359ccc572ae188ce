import BatchFile.Proofs.Storage.Wrapping
import BatchFile.Storage.Observed
import Mathlib.Data.List.Nodup
import Mathlib.Data.List.Range

/-!
# Ledgers of streams

A ledger numbers the streams that a storage opens and takes down which of them are given back.
Over an observed storage the books are in order, some streams being held, if every stream that
has been opened is either held or has been given back once (`Books.Balanced`).  Calls on a stream
in hand leave the books alone (`Ledger.frame`), and whoever opens a stream and keeps or gives it
back leaves them in order.  Keeping a ledger changes nothing about what can be seen of the storage
(`Ledger.wrapping`).
-/

namespace BatchFile

/-- A stream with its number. -/
structure Numbered (τ : Type) where
  number : Nat
  stream : τ

/-- The state of a storage and the use that has been made of its streams. -/
structure Ledger (σ : Type) where
  inner : σ
  /-- How often a file has been asked for. -/
  requests : Nat
  /-- The streams opened so far, which are numbered from 0 on. -/
  opened : Nat
  /-- The numbers of the streams given back so far, the last one first. -/
  returned : List Nat

namespace Ledger

variable {σ τ : Type} [Storage σ τ]

/-- An empty ledger. -/
def start (inner : σ) : Ledger σ := ⟨inner, 0, 0, []⟩

/-- An action of the inner storage on a stream. -/
def onStream {ε α : Type} (x : Action (τ × σ) ε α) : Action (Numbered τ × Ledger σ) ε α :=
  fun (t, l) =>
    match x (t.stream, l.inner) with
    | (r, (stream, inner)) => (r, ({ t with stream := stream }, { l with inner := inner }))

instance : Storage (Ledger σ) (Numbered τ) where
  openFile path l :=
    match Storage.openFile path l.inner with
    | (.ok stream, inner) =>
      (.ok ⟨l.opened, stream⟩,
        { l with inner := inner, requests := l.requests + 1, opened := l.opened + 1 })
    | (.error e, inner) => (.error e, { l with inner := inner, requests := l.requests + 1 })
  fileSize path l :=
    match Storage.fileSize path l.inner with
    | (r, inner) => (r, { l with inner := inner })
  seek position := onStream (Storage.seek position)
  read n := onStream (Storage.read n)
  interrupted_wf :=
    Storage.interrupted_wf_of_read (fun x => (x.1.stream, x.2.inner)) fun _ _ => rfl
  release t l :=
    { l with inner := Storage.release t.stream l.inner, returned := t.number :: l.returned }
  report e l := { l with inner := Storage.report e l.inner }

end Ledger

/-! ### Books -/

/-- What has been counted and taken down of the streams of a storage. -/
structure Books where
  opens : Nat
  releases : Nat
  requests : Nat
  opened : Nat
  returned : List Nat
deriving DecidableEq, Repr

namespace Books

/-- The books after a file could not be opened. -/
def refuse (b : Books) : Books := { b with requests := b.requests + 1 }

/-- The books after a file has been opened. -/
def lend (b : Books) : Books :=
  { b with opens := b.opens + 1, requests := b.requests + 1, opened := b.opened + 1 }

/-- The books after the stream of a number has been given back. -/
def takeBack (b : Books) (number : Nat) : Books :=
  { b with releases := b.releases + 1, returned := number :: b.returned }

/-- The books are in order while the streams of the given numbers are held: all that have been
opened are held or have been given back, each of them once, and the counts agree. -/
structure Balanced (held : List Nat) (b : Books) : Prop where
  opens_eq : b.opens = b.opened
  releases_eq : b.releases = b.returned.length
  perm : (held ++ b.returned).Perm (List.range b.opened)

namespace Balanced

variable {held held' : List Nat} {b : Books} {number : Nat}

theorem of_perm (h : b.Balanced held) (hp : held'.Perm held) :
  b.Balanced held'
  := ⟨h.opens_eq, h.releases_eq, (hp.append_right _).trans h.perm⟩

theorem refuse (h : b.Balanced held) :
  b.refuse.Balanced held
  := ⟨h.opens_eq, h.releases_eq, h.perm⟩

/-- The next stream is held. -/
theorem lend (h : b.Balanced held) :
  b.lend.Balanced (b.opened :: held)
  where
  opens_eq := congrArg (· + 1) h.opens_eq
  releases_eq := h.releases_eq
  perm := by
    show (b.opened :: (held ++ b.returned)).Perm (List.range (b.opened + 1))
    rw [List.range_succ]
    apply (h.perm.cons b.opened).trans
    apply (List.perm_append_singleton _ _).symm

/-- A stream that is held can be given back. -/
theorem takeBack (h : b.Balanced (number :: held)) :
  (b.takeBack number).Balanced held
  where
  opens_eq := h.opens_eq
  releases_eq := congrArg (· + 1) h.releases_eq
  perm := List.perm_middle.trans h.perm

/-- The streams opened are those given back and those held. -/
theorem opens_eq_add (h : b.Balanced held) :
  b.opens = b.releases + held.length
  := by
  have hl := h.perm.length_eq
  rw [List.length_append, List.length_range] at hl
  rw [h.opens_eq, h.releases_eq]
  omega

theorem nodup (h : b.Balanced held) :
  (held ++ b.returned).Nodup
  := h.perm.nodup_iff.mpr List.nodup_range

/-- No stream is given back twice. -/
theorem nodup_returned (h : b.Balanced held) :
  b.returned.Nodup
  := (List.nodup_append.mp h.nodup).2.1

/-- Only streams that have been opened are given back. -/
theorem lt_opened (h : b.Balanced held) (hn : number ∈ b.returned) :
  number < b.opened
  := List.mem_range.mp (h.perm.subset (List.mem_append_right held hn))

end Balanced

end Books

namespace Ledger

open Storage

variable {σ τ ε α : Type} [Storage σ τ]

/-- The books that a ledger keeps over an observed storage. -/
def books (l : Ledger (Observed σ)) : Books :=
  ⟨l.inner.opens, l.inner.releases, l.requests, l.opened, l.returned⟩

theorem balanced_start (inner : σ) :
  (start (Observed.start inner)).books.Balanced []
  := ⟨rfl, rfl, .refl _⟩

/-! ### Single calls -/

/-- Calls on a stream in hand leave the books and the number of the stream alone. -/
abbrev frame : Frame (Ledger (Observed σ)) (Numbered τ) where
  Rel x y := y.2.books = x.2.books ∧ y.1.number = x.1.number
  refl _ := ⟨rfl, rfl⟩
  trans h h' := ⟨h'.1.trans h.1, h'.2.trans h.2⟩
  fileSize _ _ := ⟨rfl, rfl⟩
  seek _ _ := ⟨rfl, rfl⟩
  read _ _ := ⟨rfl, rfl⟩
  report _ _ := ⟨rfl, rfl⟩

theorem books_report (e : Event) (l : Ledger (Observed σ)) :
  (report e l).books = l.books
  := rfl

theorem books_fileSize (path : Path) (l : Ledger (Observed σ)) :
  (fileSize path l).2.books = l.books
  := rfl

/-- The numbers of the streams that an outcome leaves in the hands of the caller. -/
def heldBy : Except ε (Numbered τ) → List Nat
  | .ok t => [t.number]
  | .error _ => []

variable {held : List Nat} {l : Ledger (Observed σ)} {t : Numbered τ}

theorem balanced_openFile (path : Path) (h : l.books.Balanced held) :
  (openFile path l).2.books.Balanced (heldBy (openFile path l).1 ++ held)
  := by
  simp only [openFile]
  generalize openFile path l.inner.inner = a
  obtain ⟨e | t, inner⟩ := a
  · apply h.refuse
  · apply h.lend

/-! ### Keeping streams and giving them back -/

/-- A stream that is kept is held; one that is not kept has been given back. -/
theorem balanced_keeping {x : Action (Numbered τ × Ledger (Observed σ)) ε Unit}
    (hx : Action.Moves frame.Rel x) (h : l.books.Balanced (t.number :: held)) :
  (keeping t x l).2.books.Balanced (heldBy (keeping t x l).1 ++ held)
  := by
  have hx := hx (t, l)
  rw [keeping]
  generalize x (t, l) = a at hx
  obtain ⟨e | _, t', l'⟩ := a
  all_goals
    obtain ⟨hb, hn⟩ := hx
    rw [← hb, ← hn] at h
  · apply h.takeBack
  · apply h

/-- A stream that an action is done with has been given back. -/
theorem balanced_releasing {x : Action (Numbered τ × Ledger (Observed σ)) ε α}
    (hx : Action.Moves frame.Rel x) (h : l.books.Balanced (t.number :: held)) :
  (releasing t x l).2.books.Balanced held
  := by
  have hx := hx (t, l)
  rw [releasing]
  generalize x (t, l) = a at hx
  obtain ⟨r, t', l'⟩ := a
  obtain ⟨hb, hn⟩ := hx
  rw [← hb, ← hn] at h
  apply h.takeBack

/-! ### The view of a ledger -/

/-- A ledger calls the storage inside. -/
def wrapping (V : View σ τ) : Wrapping V (Ledger σ) (Numbered τ) where
  inner := inner
  found := inner
  stream := Numbered.stream
  kept_found l := Std.Refl.refl l.inner
  openFile_eq path l := by
    simp only [openFile]
    generalize openFile path l.inner = a
    obtain ⟨e | t, s⟩ := a <;> rfl
  fileSize_eq _ _ := rfl
  seek_eq _ _ := rfl
  read_eq _ _ := rfl
  release_eq _ _ := rfl
  report_eq _ _ := rfl

end Ledger

end BatchFile
