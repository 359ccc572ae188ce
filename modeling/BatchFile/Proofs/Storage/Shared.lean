import BatchFile.Proofs.Storage.Wrapping

/-!
# Shared storages

A storage that is used by several at the same time, as one of them sees it: before each of its
calls the others may have done anything that cannot be seen, such as any calls of their own.  What
can be seen of the storage is the same as if it were used alone (`Shared.wrapping`), so whatever
holds over any view holds in spite of what the others do.
-/

namespace BatchFile

open Storage

variable {σ τ : Type} [Storage σ τ]

/-- Something that can be done to a storage without being seen. -/
structure Disturbance (V : View σ τ) where
  apply : σ → σ
  kept : ∀ s, V.Kept s (apply s)

namespace Disturbance

variable {V : View σ τ} {ε α : Type}

/-- What somebody else does to the storage. -/
def ofAction (x : Action σ ε α) (h : Action.Moves V.Kept x) : Disturbance V :=
  ⟨fun s => (x s).2, h⟩

/-- What somebody else does with a stream. -/
def ofStream (t : τ) (x : Action (τ × σ) ε α) (h : Action.Moves V.Steady x) : Disturbance V :=
  ⟨fun s => (x (t, s)).2.2, fun s => (h (t, s)).1⟩

end Disturbance

/-- The state of a storage, and what the others are going to do before the next calls. -/
structure Shared (V : View σ τ) where
  inner : σ
  others : List (Disturbance V)

namespace Shared

variable {V : View σ τ} {α : Type}

/-- The state after the others have done what they do before the next call. -/
def disturbed (s : Shared V) : Shared V :=
  match s.others with
  | [] => s
  | d :: ds => ⟨d.apply s.inner, ds⟩

/-- A call of the inner storage, after what the others do. -/
def onInner {ε : Type} (x : Action σ ε α) : Action (Shared V) ε α :=
  fun s => ((x s.disturbed.inner).1, { s.disturbed with inner := (x s.disturbed.inner).2 })

/-- A call of the inner storage on a stream, after what the others do. -/
def onStream {ε : Type} (x : Action (τ × σ) ε α) : Action (τ × Shared V) ε α :=
  fun (t, s) =>
    match x (t, s.disturbed.inner) with
    | (r, (t, inner)) => (r, (t, { s.disturbed with inner := inner }))

/-- The others come to an end with what they do, and then interruptions are those of the storage
inside. -/
theorem interrupted_wf :
  WellFounded fun y x : τ × Shared V =>
    ∃ n, onStream (Storage.read n) x = (.error IoKind.interrupted, y)
  := by
  have hw := (Prod.lex Nat.lt_wfRel ⟨_, Storage.interrupted_wf (σ := σ)⟩).wf
  refine Subrelation.wf ?_ (InvImage.wf (fun x => (x.2.others.length, (x.1, x.2.inner))) hw)
  rintro ⟨t', s'⟩ ⟨t, ⟨inner, _ | ⟨d, others⟩⟩⟩ ⟨n, h⟩
  · simp only [onStream, disturbed, Prod.mk.injEq] at h
    obtain ⟨hr, rfl, rfl⟩ := h
    exact .right _ ⟨n, Prod.ext hr rfl⟩
  · simp only [onStream, disturbed, Prod.mk.injEq] at h
    obtain ⟨-, rfl, rfl⟩ := h
    exact .left _ _ (Nat.lt_succ_self _)

instance : Storage (Shared V) τ where
  openFile path := onInner (Storage.openFile path)
  fileSize path := onInner (Storage.fileSize path)
  seek position := onStream (Storage.seek position)
  read n := onStream (Storage.read n)
  interrupted_wf := interrupted_wf
  release stream s := { s.disturbed with inner := Storage.release stream s.disturbed.inner }
  report e s := { s.disturbed with inner := Storage.report e s.disturbed.inner }

theorem kept_disturbed (s : Shared V) :
  V.Kept s.inner s.disturbed.inner
  := by
  rw [disturbed]
  split
  · apply Std.Refl.refl s.inner
  · rename_i d _ _
    apply d.kept

variable (V) in
/-- A shared storage calls the one inside, as the others have left it. -/
def wrapping : Wrapping V (Shared V) τ where
  inner := inner
  found s := s.disturbed.inner
  stream := id
  kept_found := kept_disturbed
  openFile_eq path s := by
    simp only [openFile, onInner]
    generalize openFile path s.disturbed.inner = a
    obtain ⟨e | t, s⟩ := a <;> rfl
  fileSize_eq _ _ := rfl
  seek_eq _ _ := rfl
  read_eq _ _ := rfl
  release_eq _ _ := rfl
  report_eq _ _ := rfl

end Shared

end BatchFile
