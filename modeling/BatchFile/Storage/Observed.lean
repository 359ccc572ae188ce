import BatchFile.Storage.Basic

/-!
# Observed storage

A storage that counts how another one is used and keeps the events reported to it.
-/

namespace BatchFile

/-- The state of a storage and what has been observed of it. -/
structure Observed (σ : Type) where
  inner : σ
  /-- The streams opened so far. -/
  opens : Nat
  /-- The streams given back so far. -/
  releases : Nat
  /-- How often the length of a file has been asked for. -/
  sizeCalls : Nat
  /-- The events reported so far, in order. -/
  events : List Event

namespace Observed

variable {σ τ : Type} [Storage σ τ]

/-- A storage of which nothing has been observed. -/
def start (inner : σ) : Observed σ := ⟨inner, 0, 0, 0, []⟩

/-- The streams that are open. -/
def openStreams (o : Observed σ) : Nat := o.opens - o.releases

/-- An action of the inner storage on a stream. -/
def onStream {ε α : Type} (x : Action (τ × σ) ε α) : Action (τ × Observed σ) ε α :=
  fun (t, o) =>
    match x (t, o.inner) with
    | (r, (t, inner)) => (r, (t, { o with inner := inner }))

instance : Storage (Observed σ) τ where
  openFile path o :=
    match Storage.openFile path o.inner with
    | (.ok stream, inner) => (.ok stream, { o with inner := inner, opens := o.opens + 1 })
    | (.error e, inner) => (.error e, { o with inner := inner })
  fileSize path o :=
    match Storage.fileSize path o.inner with
    | (r, inner) => (r, { o with inner := inner, sizeCalls := o.sizeCalls + 1 })
  seek position := onStream (Storage.seek position)
  read n := onStream (Storage.read n)
  interrupted_wf :=
    Storage.interrupted_wf_of_read (fun x => (x.1, x.2.inner)) fun _ _ => rfl
  release stream o :=
    { o with inner := Storage.release stream o.inner, releases := o.releases + 1 }
  report e o := { o with inner := Storage.report e o.inner, events := o.events ++ [e] }

end Observed

end BatchFile
