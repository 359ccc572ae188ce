import BatchFile.Proofs.Ipc.Decoder
import BatchFile.Proofs.Storage.View
import BatchFile.Proofs.Window
import BatchFile.Reader.Basic
import Mathlib.Data.List.Forall2

/-!
# Decoding batches

`batchIn` is the batch whose stream starts at an offset in contents.  Decoding from an open
stream gives exactly that, wherever the stream has been left before: in a sound state with
every outcome (`yields_decodeBatch`), and in any state if it succeeds (`decodeBatch_eq_ok`).
`windowsIn` is the same for the windows of selections.
-/

namespace BatchFile

namespace Ipc

variable {s : Type} [Decoder]

/-- The batch of the stream that starts at the given offset, the source being there. -/
def firstBatch (source : Source s) (offset : UInt64) : Action s Defect RecordBatch := do
  let schema ← (readSchema source).mapError (.noStream offset)
  let batch? ← (readBatch source schema).mapError (.malformedBatch offset)
  match batch? with
  | some batch => return batch
  | none => .fail (.noBatch offset)

theorem agree_firstBatch {s' : Type} {R : s → s' → Prop} {source : Source s}
    {source' : Source s'} (h : ∀ n, Action.Agree R (source n) (source' n)) (offset : UInt64) :
  Action.Agree R (firstBatch source offset) (firstBatch source' offset)
  := by
  apply Action.Agree.bind ((agree_readSchema h).mapError _)
  intro schema
  apply Action.Agree.bind ((agree_readBatch h schema).mapError _)
  rintro (_ | batch)
  · apply Action.Agree.fail
  · apply Action.Agree.pure

theorem firstBatch_eq_ok_iff {source : Source s} {offset : UInt64} {batch : RecordBatch}
    {a b : s} :
  firstBatch source offset a = (.ok batch, b)
    ↔ ∃ schema a₁, readSchema source a = (.ok schema, a₁)
      ∧ readBatch source schema a₁ = (.ok (some batch), b)
  := by
  rw [firstBatch]
  rw [Action.bind_eq_ok_iff]
  constructor
  · rintro ⟨schema, a₁, h1, h⟩
    obtain ⟨batch?, a₂, h2, h⟩ := Action.bind_eq_ok_iff.mp h
    cases batch? with
    | none => cases h
    | some batch =>
      cases h
      use schema, a₁, Action.mapError_eq_ok_iff.mp h1, Action.mapError_eq_ok_iff.mp h2
  · rintro ⟨schema, a₁, h1, h2⟩
    use schema, a₁, Action.mapError_eq_ok_iff.mpr h1
    apply Action.bind_eq_ok_iff.mpr
    use some batch, b, Action.mapError_eq_ok_iff.mpr h2
    rfl

theorem follows_firstBatch {s' : Type} {R : s → s' → Prop} {source : Source s}
    {source' : Source s'} (h : Follows R source source') {a b : s} {a' : s'} (ha : R a a')
    {offset : UInt64} {batch : RecordBatch} (hb : firstBatch source offset a = (.ok batch, b)) :
  ∃ b', firstBatch source' offset a' = (.ok batch, b') ∧ R b b'
  := by
  obtain ⟨schema, a₁, h1, h2⟩ := firstBatch_eq_ok_iff.mp hb
  obtain ⟨a₁', h1', r1⟩ := follows_readSchema h ha h1
  obtain ⟨b', h2', r2⟩ := follows_readBatch h r1 h2
  use b', firstBatch_eq_ok_iff.mpr ⟨schema, a₁', h1', h2'⟩

end Ipc

/-! ### Open streams as sources -/

namespace Reader

open Storage

variable {σ τ : Type} [Storage σ τ]

/-- A stream shows the contents, and from where it is they go on with the given bytes. -/
def Ahead (V : View σ τ) (c : Bytes) (x : τ × σ) (rest : Bytes) : Prop :=
  V.contents? x.1 x.2 = some c ∧ rest = c.drop (V.position x.1)

/-- In a sound state a stream is a source like the bytes that are ahead of it. -/
theorem agree_source (V : View σ τ) (c : Bytes) (n : Nat) :
  Action.Agree (fun x rest => V.Sound x.2 ∧ Ahead V c x rest) (source n)
    (Ipc.Source.ofBytes n)
  := by
  rintro x _ ⟨hs, hc, rfl⟩
  have hx : V.ShowsAt c (V.position x.1) x := ⟨⟨hs, hc⟩, rfl⟩
  rw [source, Ipc.Source.ofBytes]
  rw [List.length_drop]
  split
  · rename_i h
    obtain ⟨y, hr, hy⟩ := (V.yields_readExact h).run hx
    rw [hr]
    use rfl, hy.shows.1, hy.shows.2
    rw [hy.2, List.drop_drop]
  · rename_i h
    obtain ⟨y, hr, hy⟩ := (V.yields_readExact_eof (Nat.lt_of_not_le h)).run hx
    rw [hr]
    use rfl, hy.shows.1, hy.shows.2
    rw [hy.2, List.drop_eq_nil_of_le (Nat.le_max_right _ _)]

/-- In any state a stream gives nothing but the bytes that are ahead of it. -/
theorem follows_source (V : View σ τ) (c : Bytes) :
  Ipc.Follows (Ahead V c) source Ipc.Source.ofBytes
  := by
  rintro n x _ bytes y ⟨hc, rfl⟩ h
  obtain ⟨h1, rfl, h3⟩ := V.readExact_eq_ok hc h
  rw [Ipc.Source.ofBytes]
  rw [List.length_drop, if_pos h1]
  refine ⟨_, rfl, ?_, ?_⟩
  · rw [← hc, ← (V.frame.moves_readExact n x).2, show readExact n x = _ from h]
  · rw [h3, List.drop_drop]

theorem moves_source (F : StreamFrame σ τ) (n : Nat) :
  Action.Moves F.Rel (source n : Action (τ × σ) IoKind Bytes)
  := F.moves_readExact n

/-! ### Windows of decoded batches -/

theorem cut_eq_ok_iff {path : Path} {config : ReaderConfig} {x : Selection}
    {batch : RecordBatch} {w : Window} :
  cut path config x batch = .ok w
    ↔ (w.batch = batch ∧ w.start = x.start.toNat ∧ w.stop = x.stop.toNat)
      ∧ (config.verifyRowCounts = true → batch.rowCount = x.summary.recordCount.toNat)
  := by
  rw [cut]
  rw [← Window.ofRange?_eq_some_iff]
  split
  · rename_i h
    simp only [Bool.and_eq_true, decide_eq_true_eq] at h
    simp [h.1, h.2]
  · rename_i h
    have h : config.verifyRowCounts = true → batch.rowCount = x.summary.recordCount.toNat := by
      simpa using h
    cases Window.ofRange? batch x.start.toNat x.stop.toNat with
    | none => simp
    | some w' => simpa using fun _ => h

end Reader

/-! ### Batches in contents -/

variable [Ipc.Decoder]

/-- The batch whose stream starts at an offset in contents. -/
def batchIn (c : Bytes) (offset : UInt64) : Except Defect RecordBatch :=
  (Ipc.firstBatch Ipc.Source.ofBytes offset (c.drop offset.toNat)).1

theorem batchIn_eq_ok_iff {c : Bytes} {offset : UInt64} {batch : RecordBatch} :
  batchIn c offset = .ok batch
    ↔ ∃ b, Ipc.firstBatch Ipc.Source.ofBytes offset (c.drop offset.toNat) = (.ok batch, b)
  := by
  constructor
  · intro h
    use (Ipc.firstBatch Ipc.Source.ofBytes offset (c.drop offset.toNat)).2
    exact Prod.ext h rfl
  · rintro ⟨b, h⟩
    rw [batchIn, h]

/-- A batch starts in the contents. -/
theorem offset_lt_of_batchIn {c : Bytes} {offset : UInt64} {batch : RecordBatch}
    (h : batchIn c offset = .ok batch) :
  offset.toNat < c.length
  := by
  apply Nat.lt_of_not_le
  intro hn
  obtain ⟨b, hb⟩ := batchIn_eq_ok_iff.mp h
  rw [List.drop_eq_nil_of_le hn] at hb
  obtain ⟨schema, a, hs, -⟩ := Ipc.firstBatch_eq_ok_iff.mp hb
  exact Ipc.readSchema_nil_ne_ok schema a hs

/-- A batch that stands between other bytes is decoded at its place. -/
theorem batchIn_append {front stream behind : Bytes} {offset : UInt64} {batch : RecordBatch}
    (ho : offset.toNat = front.length) (h : batchIn stream 0 = .ok batch) :
  batchIn (front ++ stream ++ behind) offset = .ok batch
  := by
  obtain ⟨b, hb⟩ := batchIn_eq_ok_iff.mp h
  obtain ⟨schema, a, h1, h2⟩ := Ipc.firstBatch_eq_ok_iff.mp hb
  obtain ⟨a', h1', rfl⟩ := Ipc.follows_readSchema (Ipc.follows_append behind) rfl h1
  obtain ⟨b', h2', -⟩ := Ipc.follows_readBatch (Ipc.follows_append behind) rfl h2
  apply batchIn_eq_ok_iff.mpr
  use b'
  rw [ho, List.append_assoc, List.drop_left]
  apply Ipc.firstBatch_eq_ok_iff.mpr ⟨schema, _, h1', h2'⟩

namespace Reader

open Storage

variable {σ τ : Type} [Storage σ τ] {path : Path} {config : ReaderConfig} {offset : UInt64}

theorem decodeBatch_eq (path : Path) (offset : UInt64) :
  (decodeBatch path offset : Action (τ × σ) (Failure Error) RecordBatch)
    = Framing.onFile path (seek offset) >>= fun _ =>
      (Ipc.firstBatch source offset).mapError (.dataFormat path)
  := by
  rw [decodeBatch]
  congr 1
  funext _ x
  simp only [Ipc.firstBatch, Action.mapError_apply, Action.bind_apply]
  generalize Ipc.readSchema source x = a
  obtain ⟨e | schema, y⟩ := a
  · rfl
  simp only
  generalize Ipc.readBatch source schema y = b
  obtain ⟨e | (_ | batch), z⟩ := b <;> rfl

/-! ### Decoding from an open stream -/

theorem moves_decodeBatch (F : StreamFrame σ τ) (path : Path) (offset : UInt64) :
  Action.Moves F.Rel (decodeBatch path offset : Action (τ × σ) (Failure Error) RecordBatch)
  := by
  rw [decodeBatch_eq]
  apply Action.Moves.bind ((F.moves_seek offset).mapError _)
  intro _
  apply Action.Moves.mapError
  apply Action.Moves.of_agree
  intro s
  apply Ipc.agree_firstBatch
  intro n
  exact (moves_source F n).agree s

/-- What decoding from a stream over the contents gives in a sound state. -/
def decodeIn (V : View σ τ) (path : Path) (c : Bytes) (offset : UInt64) :
    Except (Failure Error) RecordBatch :=
  match V.refusal? offset with
  | some k => .error (.io path k)
  | none => (batchIn c offset).mapError (.dataFormat path)

/-- Whatever decoding gives, it blames the contents unless the stream refuses the offset. -/
theorem decodeIn_eq_error {V : View σ τ} {c : Bytes} {e : Failure Error}
    (h : decodeIn V path c offset = .error e) :
  e.isDataFormat = true ∨ ∃ k, V.refusal? offset = some k ∧ e = .io path k
  := by
  rw [decodeIn] at h
  cases hk : V.refusal? offset with
  | some k =>
    rw [hk] at h
    cases h
    exact .inr ⟨k, rfl, rfl⟩
  | none =>
    rw [hk] at h
    cases hd : batchIn c offset with
    | ok batch =>
      rw [hd] at h
      cases h
    | error d =>
      rw [hd] at h
      cases h
      exact .inl rfl

/-- Decoding succeeds exactly if there is a batch, where seeks into the contents are not
refused. -/
theorem decodeIn_eq_ok_iff {V : View σ τ} {c : Bytes} {batch : RecordBatch}
    (hr : ∀ q : UInt64, q.toNat ≤ c.length → V.refusal? q = none) :
  decodeIn V path c offset = .ok batch ↔ batchIn c offset = .ok batch
  := by
  rw [decodeIn]
  constructor
  · intro h
    cases hk : V.refusal? offset with
    | some k =>
      rw [hk] at h
      cases h
    | none =>
      rw [hk] at h
      cases hd : batchIn c offset with
      | ok batch' =>
        rw [hd] at h
        cases h
        rfl
      | error d =>
        rw [hd] at h
        cases h
  · intro h
    rw [hr _ (Nat.le_of_lt (offset_lt_of_batchIn h)), h]
    rfl

theorem yields_decodeBatch (V : View σ τ) {c : Bytes} :
  Action.Yields (V.Shows c) (decodeBatch path offset) (decodeIn V path c offset) (V.Shows c)
  := by
  rw [decodeBatch_eq, decodeIn]
  cases hr : V.refusal? offset with
  | some k => exact ((V.yields_seek_refused hr).mapError _).bind_error
  | none =>
    apply ((V.yields_seek hr).mapError _).bind
    apply Action.Yields.mapError
    intro x hx
    have ha := Ipc.agree_firstBatch (agree_source V c) offset x (c.drop offset.toNat)
      ⟨hx.shows.1, hx.shows.2, by rw [hx.2]⟩
    exact ⟨ha.1, ha.2.1, ha.2.2.1⟩

theorem decodeBatch_eq_ok (V : View σ τ) {c : Bytes} {batch : RecordBatch} {x y : τ × σ}
    (hc : V.contents? x.1 x.2 = some c) (h : decodeBatch path offset x = (.ok batch, y)) :
  batchIn c offset = .ok batch
  := by
  rw [decodeBatch_eq] at h
  obtain ⟨_, z, h1, h2⟩ := Action.bind_eq_ok_iff.mp h
  have h1 := Action.mapError_eq_ok_iff.mp h1
  have hz : Ahead V c z (c.drop offset.toNat) := by
    constructor
    · rw [← hc, ← V.contents_seek offset x, h1]
    · rw [V.seek_eq_ok h1]
  obtain ⟨b, hb, -⟩ :=
    Ipc.follows_firstBatch (follows_source V c) hz (Action.mapError_eq_ok_iff.mp h2)
  apply batchIn_eq_ok_iff.mpr ⟨b, hb⟩

end Reader

/-! ### The windows of selections -/

/-- A window is what a selection asks for of the contents. -/
structure Selection.Gives (config : ReaderConfig) (c : Bytes) (x : Selection) (w : Window) :
    Prop where
  batch : batchIn c x.summary.offset = .ok w.batch
  start : w.start = x.start.toNat
  stop : w.stop = x.stop.toNat
  rowCount : config.verifyRowCounts = true →
    w.batch.rowCount = x.summary.recordCount.toNat

namespace Reader

open Storage

variable {σ τ : Type} [Storage σ τ] {path : Path} {config : ReaderConfig}

theorem moves_readSelections (F : StreamFrame σ τ) (path : Path) (config : ReaderConfig)
    (xs : List Selection) :
  Action.Moves F.Rel
    (readSelections path config xs : Action (τ × σ) (Failure Error) (List Window))
  := by
  induction xs with
  | nil => exact Action.Moves.pure []
  | cons x xs ih =>
    apply Action.Moves.bind (moves_decodeBatch F path x.summary.offset)
    intro batch
    refine Action.Moves.bind (Action.Moves.ofExcept _) ?_
    intro window
    apply Action.Moves.bind ih
    intro windows
    exact Action.Moves.pure _

/-- What the selections give in a sound state, the stream being over the contents. -/
def windowsIn (V : View σ τ) (path : Path) (config : ReaderConfig) (c : Bytes) :
    List Selection → Except (Failure Error) (List Window)
  | [] => .ok []
  | x :: xs => do
    let batch ← decodeIn V path c x.summary.offset
    let window ← cut path config x batch
    let windows ← windowsIn V path config c xs
    return window :: windows

theorem yields_readSelections (V : View σ τ) (path : Path) (config : ReaderConfig) {c : Bytes}
    (xs : List Selection) :
  Action.Yields (V.Shows c) (readSelections path config xs) (windowsIn V path config c xs)
    (V.Shows c)
  := by
  induction xs with
  | nil => apply Action.Yields.pure []
  | cons x xs ih =>
    apply (yields_decodeBatch V).bind_of
    intro batch _
    apply (Action.Yields.ofExcept _).bind_of
    intro window _
    apply ih.bind_of
    intro windows _
    apply Action.Yields.pure _

/-- There is one window for each selection. -/
theorem length_of_readSelections {xs : List Selection} {ws : List Window} {x y : τ × σ}
    (h : readSelections path config xs x = (.ok ws, y)) :
  ws.length = xs.length
  := by
  induction xs generalizing ws x y with
  | nil =>
    cases h
    rfl
  | cons s xs ih =>
    obtain ⟨_, _, -, h⟩ := Action.bind_eq_ok_iff.mp h
    obtain ⟨_, _, -, h⟩ := Action.bind_eq_ok_iff.mp h
    obtain ⟨_, _, h3, h⟩ := Action.bind_eq_ok_iff.mp h
    cases h
    rw [List.length_cons, ih h3, List.length_cons]

theorem readSelections_eq_ok (V : View σ τ) {c : Bytes} {xs : List Selection}
    {ws : List Window} {x y : τ × σ} (hc : V.contents? x.1 x.2 = some c)
    (h : readSelections path config xs x = (.ok ws, y)) :
  List.Forall₂ (Selection.Gives config c) xs ws
  := by
  induction xs generalizing ws x y with
  | nil =>
    cases h
    exact .nil
  | cons s xs ih =>
    obtain ⟨batch, x₁, h1, h⟩ := Action.bind_eq_ok_iff.mp h
    obtain ⟨window, x₂, h2, h⟩ := Action.bind_eq_ok_iff.mp h
    obtain ⟨windows, x₃, h3, h⟩ := Action.bind_eq_ok_iff.mp h
    cases h
    obtain ⟨hw, rfl⟩ := Prod.mk.inj h2
    obtain ⟨⟨hb, hs, ht⟩, hv⟩ := cut_eq_ok_iff.mp hw
    have hd := decodeBatch_eq_ok V hc h1
    have hx := (moves_decodeBatch V.frame.toStreamFrame path s.summary.offset x).2
    rw [h1] at hx
    apply List.Forall₂.cons
    · exact ⟨by rw [hd, hb], hs, ht, by rwa [hb]⟩
    · apply ih (hx.trans hc) h3

/-- If there is a window for each selection, then the selections give these windows. -/
theorem windowsIn_eq_ok (V : View σ τ) (path : Path) {c : Bytes}
    (hr : ∀ p : UInt64, p.toNat ≤ c.length → V.refusal? p = none)
    {xs : List Selection} {ws : List Window}
    (h : List.Forall₂ (Selection.Gives config c) xs ws) :
  windowsIn V path config c xs = .ok ws
  := by
  induction h with
  | nil => rfl
  | @cons x w _ _ h _ ih =>
    obtain ⟨hb, hs, ht, hv⟩ := h
    have hd : decodeIn V path c x.summary.offset = .ok w.batch := (decodeIn_eq_ok_iff hr).mpr hb
    rw [windowsIn, hd, ih]
    have hc : cut path config x w.batch = .ok w := cut_eq_ok_iff.mpr ⟨⟨rfl, hs, ht⟩, hv⟩
    simp only [bind, Except.bind, hc]
    rfl

end Reader

end BatchFile
