/-!
# Actions

An action on a state either succeeds with a value or fails with an error, and in both
cases leaves a new state: what a failed action has done stays done.
-/

namespace BatchFile

/-- A computation on a state `σ` that yields an `α` or fails with an `ε`. -/
def Action (σ ε α : Type) : Type :=
  σ → Except ε α × σ

namespace Action

variable {σ τ ε ε' α β : Type}

/-- The action that yields `a` and leaves the state alone. -/
def ok (a : α) : Action σ ε α :=
  fun s => (.ok a, s)

/-- The action that fails with `e` and leaves the state alone. -/
def fail (e : ε) : Action σ ε α :=
  fun s => (.error e, s)

/-- One action after another; a failure of the first is the outcome. -/
def andThen (x : Action σ ε α) (f : α → Action σ ε β) : Action σ ε β :=
  fun s =>
    match x s with
    | (.ok a, s) => f a s
    | (.error e, s) => (.error e, s)

instance : Monad (Action σ ε) where
  pure := ok
  bind := andThen

@[simp]
theorem pure_apply (a : α) (s : σ) :
  (pure a : Action σ ε α) s = (.ok a, s)
  := rfl

@[simp]
theorem ok_apply (a : α) (s : σ) :
  (ok a : Action σ ε α) s = (.ok a, s)
  := rfl

@[simp]
theorem fail_apply (e : ε) (s : σ) :
  (fail e : Action σ ε α) s = (.error e, s)
  := rfl

theorem bind_apply (x : Action σ ε α) (f : α → Action σ ε β) (s : σ) :
  (x >>= f) s
    = match x s with
      | (.ok a, s) => f a s
      | (.error e, s) => (.error e, s)
  := rfl

theorem bind_apply_ok {x : Action σ ε α} {f : α → Action σ ε β} {s s' : σ} {a : α}
    (h : x s = (.ok a, s')) :
  (x >>= f) s = f a s'
  := by
  rw [bind_apply, h]

theorem bind_apply_error {x : Action σ ε α} {f : α → Action σ ε β} {s s' : σ} {e : ε}
    (h : x s = (.error e, s')) :
  (x >>= f) s = (.error e, s')
  := by
  rw [bind_apply, h]

/-- The outcome `r`, whatever the state. -/
def ofExcept (r : Except ε α) : Action σ ε α :=
  fun s => (r, s)

@[simp]
theorem ofExcept_apply (r : Except ε α) (s : σ) :
  (ofExcept r : Action σ ε α) s = (r, s)
  := rfl

/-- The action that changes the state by `f`. -/
def change (f : σ → σ) : Action σ ε Unit :=
  fun s => (.ok (), f s)

@[simp]
theorem change_apply (f : σ → σ) (s : σ) :
  (change f : Action σ ε Unit) s = (.ok (), f s)
  := rfl

/-- The same action with its error translated by `f`. -/
def mapError (f : ε → ε') (x : Action σ ε α) : Action σ ε' α :=
  fun s =>
    match x s with
    | (.ok a, s) => (.ok a, s)
    | (.error e, s) => (.error (f e), s)

theorem mapError_apply (f : ε → ε') (x : Action σ ε α) (s : σ) :
  mapError f x s
    = match x s with
      | (.ok a, s) => (.ok a, s)
      | (.error e, s) => (.error (f e), s)
  := rfl

/-- An action on the second half of a pair of states. -/
def onSecond (x : Action σ ε α) : Action (τ × σ) ε α :=
  fun (t, s) =>
    match x s with
    | (r, s) => (r, (t, s))

@[simp]
theorem onSecond_apply (x : Action σ ε α) (t : τ) (s : σ) :
  onSecond x (t, s) = ((x s).1, (t, (x s).2))
  := rfl

/-- The outcome of an action as a value, so that what follows can look at a failure. -/
def outcome (x : Action σ ε α) : Action σ ε' (Except ε α) :=
  fun s => (.ok (x s).1, (x s).2)

@[simp]
theorem outcome_apply (x : Action σ ε α) (s : σ) :
  (outcome x : Action σ ε' (Except ε α)) s = (.ok (x s).1, (x s).2)
  := rfl

end Action

end BatchFile
