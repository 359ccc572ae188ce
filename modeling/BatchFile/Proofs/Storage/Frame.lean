import BatchFile.Proofs.Action
import BatchFile.Storage.Basic

/-!
# Frames

While a stream is in hand, nothing is done to it and its storage but asking for the length of a
file, seeking, reading and reporting events.  A frame is a relation that all of these keep to;
what reads and loads do with an open stream then keeps to it as well.  Much of it does not ask
for lengths, and so keeps to more: to a relation that the calls on the stream itself keep to.
-/

namespace BatchFile

namespace Storage

/-- A relation between a stream with its storage and what calls on the stream make of them. -/
structure StreamFrame (σ τ : Type) [Storage σ τ] where
  Rel : τ × σ → τ × σ → Prop
  refl : ∀ x, Rel x x
  trans : ∀ {x y z}, Rel x y → Rel y z → Rel x z
  seek : ∀ (p : UInt64) (x : τ × σ), Rel x (seek p x).2
  read : ∀ (n : Nat) (x : τ × σ), Rel x (read n x).2
  report : ∀ (e : Event) (x : τ × σ), Rel x (x.1, report e x.2)

/-- A relation between a stream with its storage and what calls make of them, those that ask for
the length of a file included. -/
structure Frame (σ τ : Type) [Storage σ τ] extends StreamFrame σ τ where
  fileSize : ∀ (path : Path) (x : τ × σ), Rel x (x.1, (fileSize path x.2).2)

theorem Frame.moves_fileSize {σ τ : Type} [Storage σ τ] (F : Frame σ τ) (path : Path) :
  Action.Moves F.Rel (.onSecond (Storage.fileSize path) : Action (τ × σ) IoKind UInt64)
  := F.fileSize path

namespace StreamFrame

variable {σ τ ε : Type} [Storage σ τ] (F : StreamFrame σ τ)

instance : Std.Refl F.Rel where
  refl := F.refl

instance : Trans F.Rel F.Rel F.Rel where
  trans := F.trans

theorem moves_seek (p : UInt64) :
  Action.Moves F.Rel (Storage.seek p : Action (τ × σ) IoKind Unit)
  := F.seek p

theorem moves_note (e : Event) :
  Action.Moves F.Rel (note e : Action (τ × σ) ε Unit)
  := F.report e

theorem rel_of_read {n : Nat} {x y : τ × σ} {r : Except IoKind Bytes}
    (h : Storage.read n x = (r, y)) :
  F.Rel x y
  := by
  have hr := F.read n x
  rwa [h] at hr

theorem moves_readExact (n : Nat) :
  Action.Moves F.Rel (readExact n : Action (τ × σ) IoKind Bytes)
  := by
  intro x
  fun_induction readExact n x with
  | case1 x => apply F.refl x
  | case2 n x _ y hr ih => apply F.trans (F.rel_of_read hr) ih
  | case3 n x _ e y _ hr => apply F.rel_of_read hr
  | case4 n x _ y hr => apply F.rel_of_read hr
  | case5 n x _ b bs y hr rest z hz ih =>
    rw [hz] at ih
    apply F.trans (F.rel_of_read hr) ih
  | case6 n x _ b bs y hr e z hz ih =>
    rw [hz] at ih
    apply F.trans (F.rel_of_read hr) ih

end StreamFrame

end Storage

end BatchFile
