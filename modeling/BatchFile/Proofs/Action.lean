import BatchFile.Action
import Mathlib.Tactic.Use

/-!
# Reasoning about actions

Five ways to speak about an action.  `Action.Yields` gives its outcome on every state with a
property, `Action.Agree` compares it with another action on related states, `Action.Moves`
says how its state can change at all, `Action.Raises` says which errors it can fail with, and
`bind_eq_ok_iff` opens a sequence that succeeds.  Each of them is closed under the ways in which
actions are put together.
-/

namespace BatchFile

/-! ### Outcomes as values -/

section Except

variable {ε α β : Type} {x : Except ε α}

theorem exceptBind_eq_ok_iff {f : α → Except ε β} {b : β} :
  (x >>= f) = .ok b ↔ ∃ a, x = .ok a ∧ f a = .ok b
  := by
  cases x <;> simp [bind, Except.bind]

theorem exceptBind_eq_error_iff {f : α → Except ε β} {e : ε} :
  (x >>= f) = .error e ↔ x = .error e ∨ ∃ a, x = .ok a ∧ f a = .error e
  := by
  cases x <;> simp [bind, Except.bind]

/-- A list is gone through with success just if each of its elements has a value. -/
theorem mapM_eq_ok_iff {f : α → Except ε β} {xs : List α} {ys : List β} :
  xs.mapM f = .ok ys ↔ xs.map (fun x => (f x).toOption) = ys.map some
  := by
  induction xs generalizing ys with
  | nil => cases ys <;> simp [pure, Except.pure]
  | cons x xs ih =>
    rw [List.mapM_cons, exceptBind_eq_ok_iff, List.map_cons]
    simp only [exceptBind_eq_ok_iff, ih]
    cases f x with
    | error e => cases ys <;> simp [Except.toOption]
    | ok y => cases ys <;> simp [Except.toOption, pure, Except.pure, and_assoc, and_comm]

/-- If going through a list fails, then it fails at one of the elements. -/
theorem exists_of_mapM_eq_error {f : α → Except ε β} {xs : List α} {e : ε}
    (h : xs.mapM f = .error e) :
  ∃ x ∈ xs, f x = .error e
  := by
  induction xs with
  | nil => cases h
  | cons x xs ih =>
    rw [List.mapM_cons, exceptBind_eq_error_iff] at h
    obtain hx | ⟨y, -, h⟩ := h
    · exact ⟨x, List.mem_cons_self, hx⟩
    · obtain hs | ⟨ys, -, h⟩ := exceptBind_eq_error_iff.mp h
      · obtain ⟨z, hz, he⟩ := ih hs
        exact ⟨z, List.mem_cons_of_mem x hz, he⟩
      · cases h

theorem exists_of_isOk (h : x.isOk = true) :
  ∃ a, x = .ok a
  := by
  cases x with
  | error e => cases h
  | ok a => exact ⟨a, rfl⟩

theorem exists_of_isOk_eq_false (h : x.isOk = false) :
  ∃ e, x = .error e
  := by
  cases x with
  | error e => exact ⟨e, rfl⟩
  | ok a => cases h

/-- The error of a failure. -/
def errorOf? : Except ε α → Option ε
  | .ok _ => none
  | .error e => some e

theorem errorOf?_eq_some_iff {e : ε} :
  errorOf? x = some e ↔ x = .error e
  := by
  cases x <;> simp [errorOf?]

theorem exists_eq_error_iff :
  (∃ e, x = .error e) ↔ errorOf? x ≠ none
  := by
  cases x <;> simp [errorOf?]

end Except

namespace Action

variable {σ σ' τ ε ε' α β : Type}

/-! ### Successes -/

/-- A sequence succeeds exactly if its first action does and then its second. -/
theorem bind_eq_ok_iff {x : Action σ ε α} {f : α → Action σ ε β} {s t : σ} {b : β} :
  (x >>= f) s = (.ok b, t) ↔ ∃ a s₁, x s = (.ok a, s₁) ∧ f a s₁ = (.ok b, t)
  := by
  rw [bind_apply]
  constructor
  · intro h
    rcases hx : x s with ⟨_ | a, s₁⟩
    · rw [hx] at h
      cases h
    · rw [hx] at h
      use a, s₁
  · rintro ⟨a, s₁, hx, hf⟩
    rw [hx]
    apply hf

theorem mapError_eq_ok_iff {f : ε → ε'} {x : Action σ ε α} {s t : σ} {a : α} :
  mapError f x s = (.ok a, t) ↔ x s = (.ok a, t)
  := by
  rw [mapError_apply]
  obtain ⟨r, s₁⟩ := x s
  cases r <;> simp

/-! ### Outcomes on two states -/

theorem mapError_fst (f : ε → ε') (x : Action σ ε α) (s : σ) :
  (mapError f x s).1 = (x s).1.mapError f
  := by
  rw [mapError_apply]
  obtain ⟨r, t⟩ := x s
  cases r <;> rfl

theorem mapError_snd (f : ε → ε') (x : Action σ ε α) (s : σ) :
  (mapError f x s).2 = (x s).2
  := by
  rw [mapError_apply]
  obtain ⟨r, t⟩ := x s
  cases r <;> rfl

/-- A sequence has the same outcome on two states if its first action has and then its second,
wherever the first one leaves off. -/
theorem bind_congr_fst {x : Action σ ε α} {f : α → Action σ ε β} {s s' : σ}
    (hx : (x s').1 = (x s).1)
    (hf : ∀ a, (x s).1 = .ok a → (f a (x s').2).1 = (f a (x s).2).1) :
  ((x >>= f) s').1 = ((x >>= f) s).1
  := by
  rw [bind_apply, bind_apply]
  generalize x s = a at hx hf
  generalize x s' = a' at hx hf
  obtain ⟨r, t⟩ := a
  obtain ⟨r', t'⟩ := a'
  obtain rfl : r' = r := hx
  cases r' with
  | ok a => apply hf a rfl
  | error e => rfl

/-! ### Outcomes -/

/-- From every state in `P` the action has the outcome `r` and leaves a state in `Q`. -/
def Yields (P : σ → Prop) (x : Action σ ε α) (r : Except ε α) (Q : σ → Prop) : Prop :=
  ∀ s, P s → (x s).1 = r ∧ Q (x s).2

namespace Yields

variable {P Q R : σ → Prop} {x : Action σ ε α} {f : α → Action σ ε β}

theorem run {r : Except ε α} {s : σ} (h : Yields P x r Q) (hs : P s) :
  ∃ t, x s = (r, t) ∧ Q t
  := ⟨(x s).2, Prod.ext (h s hs).1 rfl, (h s hs).2⟩

theorem pure (a : α) :
  Yields P (Pure.pure a : Action σ ε α) (.ok a) P
  := fun _ h => ⟨rfl, h⟩

theorem ofExcept (r : Except ε α) :
  Yields P (Action.ofExcept r) r P
  := fun _ h => ⟨rfl, h⟩

theorem fail (e : ε) :
  Yields P (Action.fail e : Action σ ε α) (.error e) P
  := fun _ h => ⟨rfl, h⟩

theorem bind {a : α} {r : Except ε β} (hx : Yields P x (.ok a) Q) (hf : Yields Q (f a) r R) :
  Yields P (x >>= f) r R
  := by
  intro s hs
  obtain ⟨t, h, ht⟩ := hx.run hs
  rw [bind_apply_ok h]
  apply hf t ht

theorem bind_error {e : ε} (hx : Yields P x (.error e) Q) :
  Yields P (x >>= f) (.error e) Q
  := by
  intro s hs
  obtain ⟨t, h, ht⟩ := hx.run hs
  rw [bind_apply_error h]
  exact ⟨rfl, ht⟩

/-- The outcome of a sequence whose first action has some outcome and leaves the same
property in either case. -/
theorem bind_of {r : Except ε α} {g : α → Except ε β} (hx : Yields P x r Q)
    (hf : ∀ a, r = .ok a → Yields Q (f a) (g a) Q) :
  Yields P (x >>= f) (r >>= g) Q
  := by
  cases r with
  | ok a => apply hx.bind (hf a rfl)
  | error e => apply hx.bind_error

/-- The same where the errors are those of a pure computation under another name. -/
theorem bind_mapError {r : Except ε' α} {h : α → Except ε' β} {g : ε' → ε}
    (hx : Yields P x (r.mapError g) Q)
    (hf : ∀ a, r = .ok a → Yields Q (f a) ((h a).mapError g) Q) :
  Yields P (x >>= f) ((r >>= h).mapError g) Q
  := by
  cases r with
  | ok a => apply Yields.bind hx (hf a rfl)
  | error e => apply bind_error hx

theorem mapError {r : Except ε α} (g : ε → ε') (hx : Yields P x r Q) :
  Yields P (x.mapError g) (r.mapError g) Q
  := by
  intro s hs
  obtain ⟨t, h, ht⟩ := hx.run hs
  rw [mapError_apply, h]
  cases r <;> exact ⟨rfl, ht⟩

theorem weaken {r : Except ε α} {P' Q' : σ → Prop} (hx : Yields P x r Q)
    (hP : ∀ s, P' s → P s) (hQ : ∀ s, Q s → Q' s) :
  Yields P' x r Q'
  := by
  intro s hs
  obtain ⟨h1, h2⟩ := hx s (hP s hs)
  exact ⟨h1, hQ _ h2⟩

end Yields

/-! ### Agreement -/

/-- From related states both actions have the same outcome and leave related states. -/
def Agree (R : σ → σ' → Prop) (x : Action σ ε α) (y : Action σ' ε α) : Prop :=
  ∀ s s', R s s' → (x s).1 = (y s').1 ∧ R (x s).2 (y s').2

namespace Agree

variable {R : σ → σ' → Prop} {x : Action σ ε α} {y : Action σ' ε α}

theorem pure (a : α) :
  Agree R (Pure.pure a : Action σ ε α) (Pure.pure a)
  := fun _ _ h => ⟨rfl, h⟩

theorem fail (e : ε) :
  Agree R (Action.fail e : Action σ ε α) (Action.fail e)
  := fun _ _ h => ⟨rfl, h⟩

theorem bind {f : α → Action σ ε β} {g : α → Action σ' ε β} (hx : Agree R x y)
    (hf : ∀ a, Agree R (f a) (g a)) :
  Agree R (x >>= f) (y >>= g)
  := by
  intro s s' h
  have h := hx s s' h
  rw [bind_apply, bind_apply]
  generalize x s = a at h
  generalize y s' = b at h
  obtain ⟨r, t⟩ := a
  obtain ⟨r', t'⟩ := b
  obtain ⟨rfl, h⟩ := h
  cases r with
  | ok a => apply hf a t t' h
  | error e => exact ⟨rfl, h⟩

theorem mapError (f : ε → ε') (hx : Agree R x y) :
  Agree R (x.mapError f) (y.mapError f)
  := by
  intro s s' h
  have h := hx s s' h
  rw [mapError_apply, mapError_apply]
  generalize x s = a at h
  generalize y s' = b at h
  obtain ⟨r, t⟩ := a
  obtain ⟨r', t'⟩ := b
  obtain ⟨rfl, h⟩ := h
  cases r <;> exact ⟨rfl, h⟩

theorem outcome (hx : Agree R x y) :
  Agree R (x.outcome : Action σ ε' _) y.outcome
  := by
  intro s s' h
  obtain ⟨h1, h2⟩ := hx s s' h
  rw [outcome_apply, outcome_apply, h1]
  exact ⟨rfl, h2⟩

end Agree

/-! ### Changes of the state -/

/-- Every state is related to the one that the action leaves from it. -/
def Moves (R : σ → σ → Prop) (x : Action σ ε α) : Prop :=
  ∀ s, R s (x s).2

namespace Moves

variable {R : σ → σ → Prop} {x : Action σ ε α}

theorem pure [Std.Refl R] (a : α) :
  Moves R (Pure.pure a : Action σ ε α)
  := fun s => Std.Refl.refl s

theorem ofExcept [Std.Refl R] (r : Except ε α) :
  Moves R (Action.ofExcept r)
  := fun s => Std.Refl.refl s

theorem fail [Std.Refl R] (e : ε) :
  Moves R (Action.fail e : Action σ ε α)
  := fun s => Std.Refl.refl s

/-- An action that does not change the state further may follow, and it may rely on what the value
of the first one is known to be. -/
theorem bind_of {S : σ → σ → Prop} [Trans R S R] {f : α → Action σ ε β} {P : α → Prop}
    (hx : Moves R x) (hp : ∀ s a t, x s = (.ok a, t) → P a) (hf : ∀ a, P a → Moves S (f a)) :
  Moves R (x >>= f)
  := by
  intro s
  have h := hx s
  rw [bind_apply]
  rcases ha : x s with ⟨e | a, t⟩
  · rw [ha] at h
    apply h
  · rw [ha] at h
    apply Trans.trans h (hf a (hp s a t ha) t)

theorem before {S : σ → σ → Prop} [Trans R S R] {f : α → Action σ ε β} (hx : Moves R x)
    (hf : ∀ a, Moves S (f a)) :
  Moves R (x >>= f)
  := hx.bind_of (P := fun _ => True) (fun _ _ _ _ => trivial) fun a _ => hf a

theorem bind [Trans R R R] {f : α → Action σ ε β} (hx : Moves R x) (hf : ∀ a, Moves R (f a)) :
  Moves R (x >>= f)
  := hx.before hf

theorem mapError (f : ε → ε') (hx : Moves R x) :
  Moves R (x.mapError f)
  := by
  intro s
  have h := hx s
  rw [mapError_apply]
  generalize x s = a at h
  obtain ⟨r, t⟩ := a
  cases r <;> exact h

/-- An action that changes its state so agrees with itself on the states that have been
reached so. -/
theorem agree [Trans R R R] (hx : Moves R x) (s₀ : σ) :
  Agree (fun s s' => s = s' ∧ R s₀ s) x x
  := by
  rintro s _ ⟨rfl, h⟩
  exact ⟨rfl, rfl, Trans.trans h (hx s)⟩

theorem of_agree [Std.Refl R] (h : ∀ s₀, Agree (fun s s' => s = s' ∧ R s₀ s) x x) :
  Moves R x
  := fun s => (h s s s ⟨rfl, Std.Refl.refl s⟩).2.2

end Moves

/-! ### Failures -/

/-- Every error that the action can fail with has the property. -/
def Raises (E : ε → Prop) (x : Action σ ε α) : Prop :=
  ∀ s e, (x s).1 = .error e → E e

namespace Raises

variable {E : ε → Prop} {E' : ε' → Prop} {x : Action σ ε α}

theorem pure (a : α) :
  Raises E (Pure.pure a : Action σ ε α)
  := by rintro _ _ ⟨⟩

theorem fail {e : ε} (h : E e) :
  Raises E (Action.fail e : Action σ ε α)
  := by
  rintro _ _ ⟨⟩
  exact h

theorem ofExcept {r : Except ε α} (h : ∀ e, r = .error e → E e) :
  Raises E (Action.ofExcept r : Action σ ε α)
  := fun _ => h

/-- Of any action it can be said that its errors are errors. -/
theorem any (x : Action σ ε α) :
  Raises (fun _ => True) x
  := fun _ _ _ => trivial

theorem weaken {E' : ε → Prop} (hx : Raises E x) (h : ∀ e, E e → E' e) :
  Raises E' x
  := fun s e he => h e (hx s e he)

/-- If the first action of a sequence succeeds, the second one may rely on what its value is known
to be. -/
theorem bind_of {f : α → Action σ ε β} {P : α → Prop} (hx : Raises E x)
    (hp : ∀ s a t, x s = (.ok a, t) → P a) (hf : ∀ a, P a → Raises E (f a)) :
  Raises E (x >>= f)
  := by
  intro s e he
  rw [bind_apply] at he
  rcases ha : x s with ⟨e' | a, t⟩
  · rw [ha] at he
    cases he
    apply hx s
    rw [ha]
  · rw [ha] at he
    exact hf a (hp s a t ha) t e he

theorem bind {f : α → Action σ ε β} (hx : Raises E x) (hf : ∀ a, Raises E (f a)) :
  Raises E (x >>= f)
  := hx.bind_of (P := fun _ => True) (fun _ _ _ _ => trivial) fun a _ => hf a

theorem mapError {g : ε → ε'} (hx : Raises E x) (h : ∀ e, E e → E' (g e)) :
  Raises E' (x.mapError g)
  := by
  intro s e he
  rw [mapError_fst] at he
  cases ha : (x s).1 with
  | ok a =>
    rw [ha] at he
    cases he
  | error e' =>
    rw [ha] at he
    cases he
    apply h e' (hx s e' ha)

end Raises

end Action

end BatchFile
