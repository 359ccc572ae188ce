import BatchFile.Action
import BatchFile.Bytes
import BatchFile.Event
import BatchFile.Path
import BatchFile.Storage.IoKind

/-!
# Storage

A storage opens files as streams, says how long they are, and takes note of the events
reported while it is in use.  A stream is a place in a file that can be moved and read
from; a read of it that is interrupted can be made again.  What a storage does is described on
a state `σ` of the storage; a stream `τ` is a value that its owner holds, so that an operation
on one stream never touches another.
-/

namespace BatchFile

/-- A storage with states `σ` and streams `τ`. -/
class Storage (σ : Type) (τ : outParam Type) where
  /-- Opens the file at a path. -/
  openFile : Path → Action σ IoKind τ
  /-- The length of the file at a path. -/
  fileSize : Path → Action σ IoKind UInt64
  /-- Moves a stream to a position from the start of its file. -/
  seek : UInt64 → Action (τ × σ) IoKind Unit
  /-- Reads at most the given number of bytes; none only at the end of the file or if none
  are asked for. -/
  read : Nat → Action (τ × σ) IoKind Bytes
  /-- A stream that is read again after each interruption is not interrupted for ever. -/
  interrupted_wf : WellFounded fun y x : τ × σ => ∃ n, read n x = (.error .interrupted, y)
  /-- Gives a stream back. -/
  release : τ → σ → σ
  /-- Takes note of an event. -/
  report : Event → σ → σ

namespace Storage

variable {σ τ ε α : Type} [Storage σ τ]

/-- A storage that reads through another one is not interrupted for ever either. -/
theorem interrupted_wf_of_read {σ' τ' : Type} {read' : Nat → Action (τ' × σ') IoKind Bytes}
    (f : τ' × σ' → τ × σ) (h : ∀ n x, read n (f x) = ((read' n x).1, f (read' n x).2)) :
  WellFounded fun y x => ∃ n, read' n x = (.error .interrupted, y)
  := by
  refine Subrelation.wf ?_ (InvImage.wf f interrupted_wf)
  rintro y x ⟨n, hr⟩
  exact ⟨n, by rw [h, hr]⟩

/-- Goes by the interruptions that a stream is still to have. -/
local instance : WellFoundedRelation (τ × σ) := ⟨_, interrupted_wf⟩

/-- Reads exactly `n` bytes, in as many reads as it takes; a read that is interrupted is made
again, and one that gives no bytes is the end of the file. -/
def readExact (n : Nat) : Action (τ × σ) IoKind Bytes := fun s =>
  if n = 0 then (.ok [], s)
  else
    match _ : read n s with
    | (.error .interrupted, s) => readExact n s
    | (.error e, s) => (.error e, s)
    | (.ok [], s) => (.error .unexpectedEof, s)
    | (.ok (b :: bs), s) =>
      match readExact (n - (bs.length + 1)) s with
      | (.ok rest, s) => (.ok (b :: bs ++ rest), s)
      | (.error e, s) => (.error e, s)
termination_by s => (n, s)
decreasing_by
  · exact .right _ ⟨n, by assumption⟩
  · exact .left _ _ (by omega)

section ReadExact

variable {n : Nat} {x y : τ × σ}

theorem readExact_zero (x : τ × σ) :
  readExact 0 x = (.ok [], x)
  := by rw [readExact, if_pos rfl]

theorem readExact_of_nil (hn : n ≠ 0) (h : read n x = (.ok [], y)) :
  readExact n x = (.error .unexpectedEof, y)
  := by
  rw [readExact, if_neg hn]
  split <;> simp_all

theorem readExact_of_error {e : IoKind} (hn : n ≠ 0) (he : e ≠ .interrupted)
    (h : read n x = (.error e, y)) :
  readExact n x = (.error e, y)
  := by
  rw [readExact, if_neg hn]
  split <;> simp_all

theorem readExact_of_cons {b : UInt8} {bs : Bytes} (hn : n ≠ 0)
    (h : read n x = (.ok (b :: bs), y)) :
  readExact n x
    = match readExact (n - (bs.length + 1)) y with
      | (.ok rest, z) => (.ok (b :: bs ++ rest), z)
      | (.error e, z) => (.error e, z)
  := by
  rw [readExact, if_neg hn]
  split <;> simp_all

end ReadExact

/-- Reports an event while a stream is held. -/
def note (e : Event) : Action (τ × σ) ε Unit :=
  .onSecond (.change (report e))

/-- An action on a stream after which the stream is given back. -/
def releasing (stream : τ) (x : Action (τ × σ) ε α) : Action σ ε α := fun s =>
  match x (stream, s) with
  | (r, (stream, s)) => (r, release stream s)

/-- An action on a stream that is kept if the action succeeds and given back if it fails. -/
def keeping (stream : τ) (x : Action (τ × σ) ε Unit) : Action σ ε τ := fun s =>
  match x (stream, s) with
  | (.ok (), (stream, s)) => (.ok stream, s)
  | (.error e, (stream, s)) => (.error e, release stream s)

end Storage

end BatchFile
