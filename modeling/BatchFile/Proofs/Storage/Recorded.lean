import BatchFile.Proofs.Storage.Frame

/-!
# Recorded failures

A recorded storage does what another one does and takes down which of its calls have failed, and
how.  An action over it reports its failures if none of them goes unnoticed: whichever call fails
while it runs, the action fails, with an error that says so (`Action.Reports`).  Two kinds of
failures are excepted, as they are not there to be told to a caller: the end of the data, and an
interruption, after which a call is made again.
-/

namespace BatchFile

/-- A call of a storage. -/
inductive StorageCall where
  | openFile (path : Path)
  | fileSize (path : Path)
  | seek (position : UInt64)
  | read (n : Nat)

/-- Whether the call reads from a stream. -/
def StorageCall.isRead : StorageCall → Bool
  | read _ => true
  | _ => false

/-- A call that has failed. -/
structure CallFailure where
  call : StorageCall
  kind : IoKind

/-- The failure is one that a caller has to know of: neither the end of the data nor an
interruption. -/
structure CallFailure.IsGrave (f : CallFailure) : Prop where
  kind_ne_unexpectedEof : f.kind ≠ .unexpectedEof
  kind_ne_interrupted : f.kind ≠ .interrupted

/-! ### Reporting -/

namespace Action

variable {σ τ ε ε' α β : Type}

/-- Every grave failure that is added to a log while the action runs makes the action fail, with
an error that stands to the failure in the given relation. -/
def Reports (log : σ → List CallFailure) (R : CallFailure → ε → Prop) (x : Action σ ε α) :
    Prop :=
  ∀ s, ∃ new, log (x s).2 = log s ++ new
    ∧ ∀ f ∈ new, f.IsGrave → ∃ e, (x s).1 = .error e ∧ R f e

namespace Reports

variable {log : σ → List CallFailure} {R : CallFailure → ε → Prop} {R' : CallFailure → ε' → Prop}
  {x : Action σ ε α}

/-- An action during which no call fails has nothing to report. -/
theorem of_log_eq (h : ∀ s, log (x s).2 = log s) :
  Reports log R x
  := fun s => ⟨[], by rw [h, List.append_nil], nofun⟩

theorem pure (a : α) :
  Reports log R (Pure.pure a : Action σ ε α)
  := of_log_eq fun _ => rfl

theorem fail (e : ε) :
  Reports log R (Action.fail e : Action σ ε α)
  := of_log_eq fun _ => rfl

theorem ofExcept (r : Except ε α) :
  Reports log R (Action.ofExcept r)
  := of_log_eq fun _ => rfl

/-- If the first action has failed gravely, the second one is not run; if it has succeeded, the
second one may rely on what its value is known to be. -/
theorem bind_of {f : α → Action σ ε β} {P : α → Prop} (hx : Reports log R x)
    (hp : ∀ s a t, x s = (.ok a, t) → P a) (hf : ∀ a, P a → Reports log R (f a)) :
  Reports log R (x >>= f)
  := by
  intro s
  obtain ⟨new, hl, hn⟩ := hx s
  rw [bind_apply]
  rcases ha : x s with ⟨e | a, t⟩
  · rw [ha] at hl hn
    use new, hl
    intro c hc hg
    obtain ⟨_, h, hr⟩ := hn c hc hg
    cases h
    use e, rfl
  · rw [ha] at hl hn
    obtain ⟨new', hl', hn'⟩ := hf a (hp s a t ha) t
    use new ++ new'
    rw [hl', hl, List.append_assoc]
    use rfl
    intro c hc hg
    rcases List.mem_append.mp hc with hc | hc
    · obtain ⟨_, h, -⟩ := hn c hc hg
      cases h
    · exact hn' c hc hg

theorem bind {f : α → Action σ ε β} (hx : Reports log R x) (hf : ∀ a, Reports log R (f a)) :
  Reports log R (x >>= f)
  := hx.bind_of (P := fun _ => True) (fun _ _ _ _ => trivial) fun a _ => hf a

theorem mapError {g : ε → ε'} (hx : Reports log R x) (h : ∀ c e, R c e → R' c (g e)) :
  Reports log R' (x.mapError g)
  := by
  intro s
  obtain ⟨new, hl, hn⟩ := hx s
  rw [mapError_fst, mapError_snd]
  use new, hl
  intro c hc hg
  obtain ⟨e, he, hr⟩ := hn c hc hg
  use g e
  rw [he]
  exact ⟨rfl, h c e hr⟩

theorem weaken {R' : CallFailure → ε → Prop} (hx : Reports log R x) (h : ∀ c e, R c e → R' c e) :
  Reports log R' x
  := by
  intro s
  obtain ⟨new, hl, hn⟩ := hx s
  use new, hl
  intro c hc hg
  obtain ⟨e, he, hr⟩ := hn c hc hg
  use e, he, h c e hr

/-- What follows may look at the failure, if it fails itself when the failure is grave. -/
theorem bind_outcome {f : Except ε α → Action σ ε' β} (hx : Reports log R x)
    (hf : ∀ a, Reports log R' (f (.ok a))) (hl : ∀ e s, log (f (.error e) s).2 = log s)
    (he : ∀ c e s, c.IsGrave → R c e → ∃ e', (f (.error e) s).1 = .error e' ∧ R' c e') :
  Reports log R' (x.outcome >>= f)
  := by
  intro s
  obtain ⟨new, hn, hr⟩ := hx s
  rw [bind_apply, outcome_apply]
  simp only
  generalize x s = a at hn hr
  obtain ⟨e | a, t⟩ := a
  · use new
    rw [hl, hn]
    use rfl
    intro c hc hg
    obtain ⟨_, h, hr⟩ := hr c hc hg
    cases h
    apply he c e t hg hr
  · obtain ⟨new', hn', hr'⟩ := hf a t
    use new ++ new'
    rw [hn', hn, List.append_assoc]
    use rfl
    intro c hc hg
    rcases List.mem_append.mp hc with hc | hc
    · obtain ⟨_, h, -⟩ := hr c hc hg
      cases h
    · exact hr' c hc hg

/-- An action on the second half of a state, which has the log. -/
theorem onSecond (hx : Reports log R x) :
  Reports (fun s : τ × σ => log s.2) R (.onSecond x)
  := fun s => hx s.2

end Reports

end Action

/-! ### Recorded storages -/

/-- The state of a storage and the failures of its calls so far, in order. -/
structure Recorded (σ : Type) where
  inner : σ
  failures : List CallFailure

namespace Recorded

open Storage

variable {σ τ ε α : Type}

/-- A storage of which no failure has been recorded. -/
def start (inner : σ) : Recorded σ := ⟨inner, []⟩

/-- The failures to take down of a call with the given outcome. -/
def failuresOf (call : StorageCall) : Except IoKind α → List CallFailure
  | .ok _ => []
  | .error k => [⟨call, k⟩]

/-- A call of the inner storage. -/
def onInner (call : StorageCall) (x : Action σ IoKind α) : Action (Recorded σ) IoKind α :=
  fun s => ((x s.inner).1, ⟨(x s.inner).2, s.failures ++ failuresOf call (x s.inner).1⟩)

/-- A call of the inner storage on a stream. -/
def onStream (call : StorageCall) (x : Action (τ × σ) IoKind α) :
    Action (τ × Recorded σ) IoKind α :=
  fun (t, s) =>
    match x (t, s.inner) with
    | (r, (t, inner)) => (r, (t, ⟨inner, s.failures ++ failuresOf call r⟩))

/-- The failures recorded by the storage of a stream in hand. -/
abbrev log (x : τ × Recorded σ) : List CallFailure := x.2.failures

/-- The error is the kind of the failure of the call. -/
def Fails (call : StorageCall) (f : CallFailure) (k : IoKind) : Prop :=
  f = ⟨call, k⟩

theorem exists_of_mem_failuresOf {call : StorageCall} {f : CallFailure} {r : Except IoKind α}
    (h : f ∈ failuresOf call r) :
  ∃ k, r = .error k ∧ Fails call f k
  := by
  cases r with
  | ok a => cases h
  | error k => exact ⟨k, rfl, List.mem_singleton.mp h⟩

theorem reports_onInner (call : StorageCall) (x : Action σ IoKind α) :
  Action.Reports failures (Fails call) (onInner call x)
  := fun s => ⟨failuresOf call (x s.inner).1, rfl, fun _ h _ => exists_of_mem_failuresOf h⟩

theorem reports_onStream (call : StorageCall) (x : Action (τ × σ) IoKind α) :
  Action.Reports log (Fails call) (onStream call x)
  := fun s => ⟨failuresOf call (x (s.1, s.2.inner)).1, rfl, fun _ h _ => exists_of_mem_failuresOf h⟩

variable [Storage σ τ]

/-- The storage inside, whose failures are taken down. -/
instance : Storage (Recorded σ) τ where
  openFile path := onInner (.openFile path) (Storage.openFile path)
  fileSize path := onInner (.fileSize path) (Storage.fileSize path)
  seek position := onStream (.seek position) (Storage.seek position)
  read n := onStream (.read n) (Storage.read n)
  interrupted_wf :=
    Storage.interrupted_wf_of_read (fun x => (x.1, x.2.inner)) fun _ _ => rfl
  release stream s := { s with inner := Storage.release stream s.inner }
  report e s := { s with inner := Storage.report e s.inner }

/-! ### Calls -/

theorem reports_openFile (path : Path) :
  Action.Reports failures (Fails (.openFile path))
    (openFile path : Action (Recorded σ) IoKind τ)
  := reports_onInner _ _

theorem reports_fileSize (path : Path) :
  Action.Reports failures (Fails (.fileSize path))
    (fileSize path : Action (Recorded σ) IoKind UInt64)
  := reports_onInner _ _

theorem reports_seek (position : UInt64) :
  Action.Reports log (Fails (.seek position))
    (seek position : Action (τ × Recorded σ) IoKind Unit)
  := reports_onStream _ _

theorem reports_note {R : CallFailure → ε → Prop} (e : Event) :
  Action.Reports log R (note e : Action (τ × Recorded σ) ε Unit)
  := .of_log_eq fun _ => rfl

/-- The failures of one read or of several in a row. -/
def FailsReading (f : CallFailure) (k : IoKind) : Prop :=
  f.call.isRead = true ∧ f.kind = k

theorem log_of_read {n : Nat} {x y : τ × Recorded σ} {r : Except IoKind Bytes}
    (h : Storage.read n x = (r, y)) :
  log y = log x ++ failuresOf (.read n) r
  := by
  simp only [Storage.read, onStream, Prod.mk.injEq] at h
  obtain ⟨rfl, rfl⟩ := h
  rfl

/-- The first read that fails gravely ends an exact read. -/
theorem reports_readExact (n : Nat) :
  Action.Reports log FailsReading (readExact n : Action (τ × Recorded σ) IoKind Bytes)
  := by
  intro x
  fun_induction readExact n x with
  | case1 x => exact ⟨[], (List.append_nil _).symm, List.forall_mem_nil _⟩
  | case2 n x _ y hr ih =>
    -- An interruption is no grave failure, and what comes of the read is up to the next one.
    obtain ⟨new, hl, hn⟩ := ih
    use failuresOf (.read n) (.error .interrupted : Except IoKind Bytes) ++ new
    rw [hl, log_of_read hr, List.append_assoc]
    use rfl
    intro f hf hg
    rcases List.mem_append.mp hf with hf | hf
    · obtain ⟨k, hk, rfl⟩ := exists_of_mem_failuresOf hf
      cases hk
      exact (hg.kind_ne_interrupted rfl).elim
    · exact hn f hf hg
  | case3 n x _ e y _ hr =>
    use failuresOf (.read n) (.error e : Except IoKind Bytes), log_of_read hr
    intro f hf _
    obtain ⟨k, hk, rfl⟩ := exists_of_mem_failuresOf hf
    exact ⟨k, hk, rfl, rfl⟩
  | case4 n x _ y hr => exact ⟨[], log_of_read hr, List.forall_mem_nil _⟩
  | case5 n x _ b bs y hr rest z hz ih =>
    rw [hz, log_of_read hr, failuresOf, List.append_nil] at ih
    obtain ⟨new, hl, hn⟩ := ih
    use new, hl
    intro f hf hg
    obtain ⟨_, h, -⟩ := hn f hf hg
    cases h
  | case6 n x _ b bs y hr e z hz ih =>
    rwa [hz, log_of_read hr, failuresOf, List.append_nil] at ih

/-! ### Streams -/

theorem reports_keeping {R : CallFailure → ε → Prop} {x : Action (τ × Recorded σ) ε Unit}
    (hx : Action.Reports log R x) (t : τ) :
  Action.Reports failures R (keeping t x)
  := by
  intro s
  obtain ⟨new, hl, hr⟩ := hx (t, s)
  rw [keeping]
  generalize x (t, s) = a at hl hr
  obtain ⟨e | _, t', s'⟩ := a
  all_goals
    use new, hl
    intro c hc hg
    obtain ⟨_, h, hr⟩ := hr c hc hg
    cases h
  exact ⟨e, rfl, hr⟩

end Recorded

end BatchFile
