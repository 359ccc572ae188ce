import BatchFile.Panic
import BatchFile.Proofs.Storage.Frame
import Mathlib.Order.Defs.Unbundled

/-!
# Views of a storage

A view says what can be seen of a storage: the contents of the files, the contents that an
open stream shows, and where the stream is.  Whatever succeeds is true to the view, and no
call changes what is seen elsewhere.  In a sound state calls do not fail, apart from seeks
behind the end of a file, some of which a storage may refuse.

`View.yields_readExact` says what an exact read gives in a sound state, and
`View.readExact_eq_ok` what is known of one that succeeds in any state.
-/

namespace BatchFile

namespace Storage

/-- What can be seen of a storage with states `σ` and streams `τ`. -/
structure Appearance (σ τ : Type) where
  /-- The contents of the file at a path. -/
  file? : Path → σ → Option Bytes
  /-- The contents that a stream shows. -/
  contents? : τ → σ → Option Bytes
  /-- Where a stream is. -/
  position : τ → Nat
  /-- The states in which calls do not fail. -/
  Sound : σ → Prop
  /-- How a seek to a position behind the end fails, if it does. -/
  refusal? : UInt64 → Option IoKind

/-- Nothing that can be seen changes from one state to the other. -/
structure Appearance.Kept {σ τ : Type} (V : Appearance σ τ) (s s' : σ) : Prop where
  sound : V.Sound s → V.Sound s'
  file : ∀ path, V.file? path s' = V.file? path s
  contents : ∀ t, V.contents? t s' = V.contents? t s

/-- An appearance that the calls of a storage are true to. -/
structure View (σ τ : Type) [Storage σ τ] extends Appearance σ τ where
  length_lt : ∀ {path : Path} {s : σ} {c : Bytes}, Sound s → file? path s = some c →
    c.length < Buffer.limit
  kept_openFile : ∀ (path : Path) (s : σ), toAppearance.Kept s (openFile path s).2
  openFile_eq_ok : ∀ {path : Path} {s s' : σ} {t : τ}, openFile path s = (.ok t, s') →
    contents? t s' = file? path s ∧ position t = 0
  openFile_sound : ∀ {path : Path} {s : σ} {c : Bytes}, Sound s → file? path s = some c →
    ∃ t, (openFile path s).1 = .ok t
  kept_fileSize : ∀ (path : Path) (s : σ), toAppearance.Kept s (fileSize path s).2
  fileSize_sound : ∀ {path : Path} {s : σ} {c : Bytes}, Sound s → file? path s = some c →
    (fileSize path s).1 = .ok (UInt64.ofNat c.length)
  kept_seek : ∀ (p : UInt64) (x : τ × σ), toAppearance.Kept x.2 (seek p x).2.2
  contents_seek : ∀ (p : UInt64) (x : τ × σ),
    contents? (seek p x).2.1 (seek p x).2.2 = contents? x.1 x.2
  seek_eq_ok : ∀ {p : UInt64} {x y : τ × σ}, seek p x = (.ok (), y) → position y.1 = p.toNat
  seek_sound : ∀ {p : UInt64} {x : τ × σ} {c : Bytes}, Sound x.2 → contents? x.1 x.2 = some c →
    (seek p x).1 = match refusal? p with
      | none => .ok ()
      | some k => .error k
  refusal?_eq_none : ∀ {p : UInt64} {t : τ} {s : σ} {c : Bytes}, Sound s →
    contents? t s = some c → p.toNat ≤ c.length → refusal? p = none
  kept_read : ∀ (n : Nat) (x : τ × σ), toAppearance.Kept x.2 (read n x).2.2
  contents_read : ∀ (n : Nat) (x : τ × σ),
    contents? (read n x).2.1 (read n x).2.2 = contents? x.1 x.2
  read_eq_ok : ∀ {n : Nat} {x y : τ × σ} {c b : Bytes}, contents? x.1 x.2 = some c →
    read n x = (.ok b, y) →
    b.length ≤ n ∧ b <+: c.drop (position x.1) ∧ position y.1 = position x.1 + b.length
  position_of_interrupted : ∀ {n : Nat} {x y : τ × σ}, read n x = (.error .interrupted, y) →
    position y.1 = position x.1
  read_sound : ∀ {n : Nat} {x : τ × σ} {c : Bytes}, Sound x.2 → contents? x.1 x.2 = some c →
    ∃ b, (read n x).1 = .ok b ∧ (b = [] → n = 0 ∨ c.length ≤ position x.1)
  kept_release : ∀ (t : τ) (s : σ), toAppearance.Kept s (release t s)
  kept_report : ∀ (e : Event) (s : σ), toAppearance.Kept s (report e s)

/-- What a stream shows does not depend on what becomes of the storage. -/
def View.Lasting {σ τ : Type} [Storage σ τ] (V : View σ τ) : Prop :=
  ∀ (t : τ) (s s' : σ), V.contents? t s' = V.contents? t s

namespace Appearance

variable {σ τ : Type} (V : Appearance σ τ)

instance : Std.Refl V.Kept where
  refl _ := ⟨id, fun _ => rfl, fun _ => rfl⟩

instance : Trans V.Kept V.Kept V.Kept where
  trans h h' :=
    ⟨fun hs => h'.sound (h.sound hs), fun path => (h'.file path).trans (h.file path),
      fun t => (h'.contents t).trans (h.contents t)⟩

/-- Nothing that can be seen changes, apart from the position of the stream in hand. -/
def Steady (x y : τ × σ) : Prop :=
  V.Kept x.2 y.2 ∧ V.contents? y.1 y.2 = V.contents? x.1 x.2

instance : Std.Refl V.Steady where
  refl x := ⟨Std.Refl.refl x.2, rfl⟩

instance : Trans V.Steady V.Steady V.Steady where
  trans h h' := ⟨Trans.trans h.1 h'.1, h'.2.trans h.2⟩

/-- The stream in hand shows `c`, and no call fails. -/
def Shows (c : Bytes) (x : τ × σ) : Prop :=
  V.Sound x.2 ∧ V.contents? x.1 x.2 = some c

/-- The stream in hand shows `c` and is at position `p`, and no call fails. -/
def ShowsAt (c : Bytes) (p : Nat) (x : τ × σ) : Prop :=
  V.Shows c x ∧ V.position x.1 = p

variable {V}

theorem Steady.shows {c : Bytes} {x y : τ × σ} (h : V.Steady x y) (hx : V.Shows c x) :
  V.Shows c y
  := ⟨h.1.sound hx.1, h.2.trans hx.2⟩

theorem ShowsAt.shows {c : Bytes} {p : Nat} {x : τ × σ} (h : V.ShowsAt c p x) :
  V.Shows c x
  := h.1

end Appearance

namespace View

variable {σ τ ε α : Type} [Storage σ τ] (V : View σ τ)

theorem length_lt_size {path : Path} {s : σ} {c : Bytes} (hs : V.Sound s)
    (hf : V.file? path s = some c) :
  c.length < UInt64.size
  := Buffer.lt_size_of_lt (V.length_lt hs hf)

/-! ### What calls leave alone -/

theorem moves_openFile (path : Path) :
  Action.Moves V.Kept (openFile path : Action σ IoKind τ)
  := V.kept_openFile path

theorem moves_fileSize (path : Path) :
  Action.Moves V.Kept (fileSize path : Action σ IoKind UInt64)
  := V.kept_fileSize path

theorem moves_report (e : Event) :
  Action.Moves V.Kept (.change (report e) : Action σ ε Unit)
  := V.kept_report e

theorem moves_seek (p : UInt64) :
  Action.Moves V.Steady (seek p : Action (τ × σ) IoKind Unit)
  := fun x => ⟨V.kept_seek p x, V.contents_seek p x⟩

theorem moves_read (n : Nat) :
  Action.Moves V.Steady (read n : Action (τ × σ) IoKind Bytes)
  := fun x => ⟨V.kept_read n x, V.contents_read n x⟩

/-- An action on the storage alone does not touch the stream in hand. -/
theorem moves_onSecond {x : Action σ ε α} (h : Action.Moves V.Kept x) :
  Action.Moves V.Steady (.onSecond x : Action (τ × σ) ε α)
  := fun s => ⟨h s.2, (h s.2).contents s.1⟩

/-- Calls on a stream in hand change nothing that can be seen, apart from its position. -/
abbrev frame : Frame σ τ where
  Rel := V.Steady
  refl := Std.Refl.refl
  trans := Trans.trans
  fileSize path := V.moves_onSecond (V.moves_fileSize path)
  seek := V.moves_seek
  read := V.moves_read
  report e x := ⟨V.kept_report e x.2, (V.kept_report e x.2).contents x.1⟩

theorem moves_keeping {t : τ} {x : Action (τ × σ) ε Unit} (h : Action.Moves V.Steady x) :
  Action.Moves V.Kept (keeping t x)
  := by
  intro s
  have h := (h (t, s)).1
  rw [keeping]
  generalize x (t, s) = a at h
  obtain ⟨e | _, t', s'⟩ := a
  · apply Trans.trans h (V.kept_release t' s')
  · apply h

theorem moves_releasing {t : τ} {x : Action (τ × σ) ε α}
    (h : Action.Moves V.Steady x) :
  Action.Moves V.Kept (releasing t x)
  := by
  intro s
  have h := (h (t, s)).1
  rw [releasing]
  generalize x (t, s) = a at h
  obtain ⟨a, t', s'⟩ := a
  apply Trans.trans h (V.kept_release t' s')

/-! ### Files in sound states -/

/-- In a sound state a file is opened as a stream of its contents. -/
theorem openFile_of_sound {path : Path} {s : σ} {c : Bytes} (hs : V.Sound s)
    (hf : V.file? path s = some c) :
  ∃ t s', openFile path s = (.ok t, s') ∧ V.Kept s s' ∧ V.Shows c (t, s')
  := by
  have hk := V.kept_openFile path s
  obtain ⟨t, ht⟩ := V.openFile_sound hs hf
  rcases ho : openFile path s with ⟨a, s'⟩
  rw [ho] at hk ht
  obtain rfl : a = .ok t := ht
  use t, s', rfl, hk, hk.sound hs
  exact (V.openFile_eq_ok ho).1.trans hf

theorem fileSize_of_sound {path : Path} {s : σ} {c : Bytes} (hs : V.Sound s)
    (hf : V.file? path s = some c) :
  ∃ s', fileSize path s = (.ok (UInt64.ofNat c.length), s') ∧ V.Kept s s'
  := by
  use (fileSize path s).2
  exact ⟨Prod.ext (V.fileSize_sound hs hf) rfl, V.kept_fileSize path s⟩

/-! ### Exact reads -/

theorem contents?_of_read {n : Nat} {x y : τ × σ} {r : Except IoKind Bytes}
    (h : read n x = (r, y)) :
  V.contents? y.1 y.2 = V.contents? x.1 x.2
  := by
  have hr := V.contents_read n x
  rwa [h] at hr

/-- A read that gives some bytes leaves the others. -/
theorem read_eq_ok_cons {n : Nat} {x y : τ × σ} {c : Bytes} {b : UInt8} {bs : Bytes}
    (hc : V.contents? x.1 x.2 = some c) (h : read n x = (.ok (b :: bs), y)) :
  bs.length + 1 ≤ n ∧ bs.length + 1 ≤ c.length - V.position x.1
    ∧ V.position y.1 = V.position x.1 + (bs.length + 1)
    ∧ ∀ k, b :: bs ++ (c.drop (V.position y.1)).take k
      = (c.drop (V.position x.1)).take (bs.length + 1 + k)
  := by
  obtain ⟨hn, ⟨more, hmore⟩, hp⟩ := V.read_eq_ok hc h
  have hl : c.length - V.position x.1 = bs.length + 1 + more.length := by
    rw [← List.length_drop, ← hmore, List.length_append, List.length_cons]
  have hd : c.drop (V.position y.1) = more := by
    rw [hp, ← List.drop_drop, ← hmore, List.drop_left]
  use hn, by omega, hp
  intro k
  rw [hd, ← hmore, ← List.length_cons (a := b), List.take_append,
    List.take_of_length_le (Nat.le_add_right _ k), Nat.add_sub_cancel_left]

/-- An exact read that succeeds gives the next bytes of the contents. -/
theorem readExact_eq_ok {n : Nat} {x y : τ × σ} {c b : Bytes}
    (hc : V.contents? x.1 x.2 = some c) (h : readExact n x = (.ok b, y)) :
  n ≤ c.length - V.position x.1 ∧ b = (c.drop (V.position x.1)).take n
    ∧ V.position y.1 = V.position x.1 + n
  := by
  fun_induction readExact n x generalizing y b with
  | case1 x =>
    cases h
    simp
  | case2 n x _ z hr ih =>
    rw [← V.position_of_interrupted hr]
    exact ih ((V.contents?_of_read hr).trans hc) h
  | case3 => cases h
  | case4 => cases h
  | case5 n x _ a as z hr rest w hw ih =>
    obtain ⟨h1, h2, h3, h4⟩ := V.read_eq_ok_cons hc hr
    cases h
    obtain ⟨i1, rfl, i3⟩ := ih ((V.contents?_of_read hr).trans hc) hw
    use by omega
    constructor
    · rw [h4]
      congr 1
      omega
    · omega
  | case6 => cases h

/-- In a sound state a read gives nothing only at the end of the contents. -/
theorem read_of_showsAt {c : Bytes} {p n : Nat} {x : τ × σ} (hn : n ≠ 0)
    (hx : V.ShowsAt c p x) :
  (∃ y, read n x = (.ok [], y) ∧ c.length ≤ p ∧ V.ShowsAt c p y)
    ∨ ∃ b bs y, read n x = (.ok (b :: bs), y) ∧ bs.length + 1 ≤ n
      ∧ bs.length + 1 ≤ c.length - p ∧ V.ShowsAt c (p + (bs.length + 1)) y
      ∧ ∀ k, b :: bs ++ (c.drop (p + (bs.length + 1))).take k
        = (c.drop p).take (bs.length + 1 + k)
  := by
  obtain ⟨hc, rfl⟩ := hx
  obtain ⟨b, hb, he⟩ := V.read_sound (n := n) hc.1 hc.2
  have hs := (V.moves_read n x).shows hc
  rcases hr : read n x with ⟨r, y⟩
  rw [hr] at hb hs
  obtain rfl : r = .ok b := hb
  cases b with
  | nil =>
    left
    obtain ⟨-, -, hp⟩ := V.read_eq_ok hc.2 hr
    use y, rfl, (he rfl).resolve_left hn, hs, hp
  | cons a as =>
    right
    obtain ⟨h1, h2, h3, h4⟩ := V.read_eq_ok_cons hc.2 hr
    rw [h3] at h4
    use a, as, y, rfl, h1, h2, ⟨hs, h3⟩

/-- In a sound state an exact read gives the next bytes, if there are as many. -/
theorem yields_readExact {c : Bytes} {p n : Nat} (h : n ≤ c.length - p) :
  Action.Yields (V.ShowsAt c p) (readExact n) (.ok ((c.drop p).take n)) (V.ShowsAt c (p + n))
  := by
  induction n using Nat.strongRecOn generalizing p with
  | ind n ih =>
    intro x hx
    rcases Nat.eq_zero_or_pos n with rfl | hn
    · rw [readExact_zero, List.take_zero]
      exact ⟨rfl, hx⟩
    · have hn : n ≠ 0 := by omega
      rcases V.read_of_showsAt hn hx with ⟨y, -, hp, -⟩ | ⟨b, bs, y, hr, h1, h2, hy, h3⟩
      · omega
      · have hi := ih (n - (bs.length + 1)) (by omega) (p := p + (bs.length + 1)) (by omega)
        obtain ⟨z, hz, hs⟩ := hi.run hy
        rw [readExact_of_cons hn hr, hz]
        constructor
        · dsimp only
          rw [h3]
          congr 2
          omega
        · rw [show p + n = p + (bs.length + 1) + (n - (bs.length + 1)) by omega]
          apply hs

/-- In a sound state an exact read of more than is left goes to the end. -/
theorem yields_readExact_eof {c : Bytes} {p n : Nat} (h : c.length - p < n) :
  Action.Yields (V.ShowsAt c p) (readExact n) (.error .unexpectedEof)
    (V.ShowsAt c (max p c.length))
  := by
  induction n using Nat.strongRecOn generalizing p with
  | ind n ih =>
    intro x hx
    have hn : n ≠ 0 := by omega
    rcases V.read_of_showsAt hn hx with ⟨y, hr, hp, hy⟩ | ⟨b, bs, y, hr, h1, h2, hy, -⟩
    · rw [readExact_of_nil hn hr, Nat.max_eq_left hp]
      use rfl, hy.1, hy.2
    · have hi := ih (n - (bs.length + 1)) (by omega) (p := p + (bs.length + 1)) (by omega)
      obtain ⟨z, hz, hs⟩ := hi.run hy
      rw [readExact_of_cons hn hr, hz]
      use rfl
      rw [show max p c.length = max (p + (bs.length + 1)) c.length by omega]
      apply hs

/-- In a sound state a seek goes to the position or is refused. -/
theorem yields_seek {c : Bytes} {p : UInt64} (h : V.refusal? p = none) :
  Action.Yields (V.Shows c) (seek p) (.ok ()) (V.ShowsAt c p.toNat)
  := by
  intro x hx
  have hs := V.seek_sound (p := p) hx.1 hx.2
  rw [h] at hs
  use hs, (V.moves_seek p x).shows hx
  apply V.seek_eq_ok (x := x)
  exact Prod.ext hs rfl

theorem yields_seek_refused {c : Bytes} {p : UInt64} {k : IoKind} (h : V.refusal? p = some k) :
  Action.Yields (V.Shows c) (seek p) (.error k) (V.Shows c)
  := by
  intro x hx
  have hs := V.seek_sound (p := p) hx.1 hx.2
  rw [h] at hs
  exact ⟨hs, (V.moves_seek p x).shows hx⟩

/-- No seek into the contents is refused. -/
theorem yields_seek_of_le {c : Bytes} {p : UInt64} (h : p.toNat ≤ c.length) :
  Action.Yields (V.Shows c) (seek p) (.ok ()) (V.ShowsAt c p.toNat)
  := fun x hx => V.yields_seek (V.refusal?_eq_none hx.1 hx.2 h) x hx

theorem yields_note {c : Bytes} (e : Event) :
  Action.Yields (V.Shows c) (note e : Action (τ × σ) ε Unit) (.ok ()) (V.Shows c)
  := fun x hx => ⟨rfl, (V.frame.report e x).shows hx⟩

end View

end Storage

end BatchFile
