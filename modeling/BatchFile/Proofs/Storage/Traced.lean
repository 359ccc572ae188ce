import BatchFile.Proofs.Storage.Recorded
import BatchFile.Proofs.Storage.Wrapping

/-!
# Traced storage

A traced storage does what another one does and takes down every call in order, whatever its
outcome.  What is done with a stream in hand, short of asking for the length of a file, adds calls
of the stream only (`Traced.streamFrame`).
-/

namespace BatchFile

/-- Whether the call is one on the files of a storage and not on a stream. -/
def StorageCall.isOnFiles : StorageCall → Bool
  | openFile _ => true
  | fileSize _ => true
  | seek _ => false
  | read _ => false

/-- The state of a storage and its calls so far, in order. -/
structure Traced (σ : Type) where
  inner : σ
  calls : List StorageCall

namespace Traced

open Storage

variable {σ τ ε α : Type}

/-- A storage of which no call has been taken down. -/
def start (inner : σ) : Traced σ := ⟨inner, []⟩

/-- A call of the inner storage. -/
def onInner (call : StorageCall) (x : Action σ IoKind α) : Action (Traced σ) IoKind α :=
  fun s => ((x s.inner).1, ⟨(x s.inner).2, s.calls ++ [call]⟩)

/-- A call of the inner storage on a stream. -/
def onStream (call : StorageCall) (x : Action (τ × σ) IoKind α) :
    Action (τ × Traced σ) IoKind α :=
  fun (t, s) =>
    match x (t, s.inner) with
    | (r, (t, inner)) => (r, (t, ⟨inner, s.calls ++ [call]⟩))

variable [Storage σ τ]

/-- The storage inside, whose calls are taken down. -/
instance : Storage (Traced σ) τ where
  openFile path := onInner (.openFile path) (Storage.openFile path)
  fileSize path := onInner (.fileSize path) (Storage.fileSize path)
  seek position := onStream (.seek position) (Storage.seek position)
  read n := onStream (.read n) (Storage.read n)
  interrupted_wf :=
    Storage.interrupted_wf_of_read (fun x => (x.1, x.2.inner)) fun _ _ => rfl
  release stream s := { s with inner := Storage.release stream s.inner }
  report e s := { s with inner := Storage.report e s.inner }

/-- A traced storage calls the one inside. -/
def wrapping (V : View σ τ) : Wrapping V (Traced σ) τ where
  inner := inner
  found := inner
  stream := id
  kept_found s := Std.Refl.refl s.inner
  openFile_eq path s := by
    simp only [openFile, onInner]
    generalize openFile path s.inner = a
    obtain ⟨e | t, s⟩ := a <;> rfl
  fileSize_eq _ _ := rfl
  seek_eq _ _ := rfl
  read_eq _ _ := rfl
  release_eq _ _ := rfl
  report_eq _ _ := rfl

/-! ### What calls add -/

/-- The second state comes of the first one by further calls, those of them that are on files
being the given ones. -/
def Adds (files : List StorageCall) (s s' : Traced σ) : Prop :=
  ∃ new, s'.calls = s.calls ++ new ∧ new.filter StorageCall.isOnFiles = files

section Adds

variable {files files' : List StorageCall} {s s' s'' : Traced σ}

/-- No call adds nothing. -/
theorem adds_of_calls_eq (h : s'.calls = s.calls) :
  Adds [] s s'
  := ⟨[], by rw [h, List.append_nil], rfl⟩

theorem Adds.append (h : Adds files s s') (h' : Adds files' s' s'') :
  Adds (files ++ files') s s''
  := by
  obtain ⟨new, hc, rfl⟩ := h
  obtain ⟨new', hc', rfl⟩ := h'
  use new ++ new'
  rw [hc', hc, List.append_assoc]
  use rfl
  apply List.filter_append

instance : Trans (Adds (σ := σ) files) (Adds []) (Adds files) where
  trans h h' := List.append_nil files ▸ h.append h'

/-- The same of a stream in hand and its storage. -/
abbrev AddsHolding (files : List StorageCall) : τ × Traced σ → τ × Traced σ → Prop :=
  InvImage (Adds files) Prod.snd

instance : Std.Refl (AddsHolding (σ := σ) (τ := τ) []) where
  refl _ := adds_of_calls_eq rfl

instance : Trans (AddsHolding (σ := σ) (τ := τ) files) (AddsHolding []) (AddsHolding files) where
  trans h h' := Trans.trans (r := Adds files) h h'

end Adds

/-- Calls on a stream in hand are not calls on files. -/
abbrev streamFrame : StreamFrame (Traced σ) τ where
  Rel := AddsHolding []
  refl := Std.Refl.refl
  trans := Trans.trans
  seek p _ := ⟨[.seek p], rfl, rfl⟩
  read n _ := ⟨[.read n], rfl, rfl⟩
  report _ _ := adds_of_calls_eq rfl

theorem adds_fileSize (path : Path) :
  Action.Moves (Adds [.fileSize path]) (fileSize path : Action (Traced σ) IoKind UInt64)
  := fun _ => ⟨[.fileSize path], rfl, rfl⟩

/-- Keeping a stream or giving it back is no call. -/
theorem adds_keeping {files : List StorageCall} {t : τ} {x : Action (τ × Traced σ) ε Unit}
    (h : Action.Moves (AddsHolding files) x) :
  Action.Moves (Adds files) (keeping t x)
  := by
  intro s
  have h := h (t, s)
  rw [keeping]
  generalize x (t, s) = a at h
  obtain ⟨e | _, t', s'⟩ := a <;> exact h

end Traced

end BatchFile
