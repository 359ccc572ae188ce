import BatchFile.Proofs.Reader.Plan
import BatchFile.Proofs.Reader.Step

/-!
# What a reader holds

A reader holds contents if its stream shows them, or would show them if it were opened now;
reading does not change what it holds (`holds_read`).  A read that succeeds has all its
windows from these contents (`gives_of_read`).
-/

namespace BatchFile

namespace Reader

open Storage

variable {σ τ : Type} [Storage σ τ] {V : View σ τ} {c : Bytes} {r : Reader τ} {s : σ}
  {range : RowRange}

/-! ### Holding contents -/

/-- The reader is not closed, and its stream shows the contents, or would show them if it were
opened now. -/
def Holds (V : View σ τ) (c : Bytes) (r : Reader τ) (s : σ) : Prop :=
  match r.state with
  | .unopened => V.file? r.path s = some c
  | .opened t => V.contents? t s = some c
  | .closed => False

theorem holds_of_kept {s' : σ} (h : Holds V c r s) (hk : V.Kept s s') :
  Holds V c r s'
  := by
  unfold Holds at *
  cases hr : r.state with
  | unopened =>
    rw [hr] at h
    exact (hk.file r.path).trans h
  | opened t =>
    rw [hr] at h
    exact (hk.contents t).trans h
  | closed =>
    rw [hr] at h
    apply h

theorem keeping_eq_ok {t t' : τ} {x : Action (τ × σ) (Failure Error) Unit} {s' : σ}
    (h : keeping t x s = (.ok t', s')) :
  x (t, s) = (.ok (), (t', s'))
  := by
  rw [keeping] at h
  generalize x (t, s) = a at h ⊢
  obtain ⟨e | _, t₁, s₁⟩ := a <;> cases h
  rfl

/-- A stream that is opened shows what the file holds. -/
theorem openStream_eq_ok {path : Path} {config : ReaderConfig} {t : τ} {s' : σ}
    (hf : V.file? path s = some c) (h : openStream path config s = (.ok t, s')) :
  V.contents? t s' = some c
  := by
  obtain ⟨_, s₁, h1, h2⟩ := Action.bind_eq_ok_iff.mp h
  obtain ⟨t₁, s₂, h3, h4⟩ := Action.bind_eq_ok_iff.mp h2
  have hr := V.kept_report (.opening path config.validateFraming) s
  obtain ⟨-, rfl⟩ := Prod.mk.inj h1
  have hc := V.openFile_eq_ok (Action.mapError_eq_ok_iff.mp h3)
  have hk := moves_checkOpened V.frame path config (t₁, s₂)
  rw [keeping_eq_ok h4] at hk
  rw [hk.2, hc.1, hr.file, hf]

theorem ensureOpen_eq_ok {t : τ} {s' : σ} (h : Holds V c r s)
    (ho : ensureOpen r s = (.ok t, s')) :
  V.contents? t s' = some c
  := by
  rw [Holds] at h
  rw [ensureOpen] at ho
  cases hr : r.state with
  | unopened =>
    rw [hr] at h ho
    apply openStream_eq_ok h ho
  | opened t₁ =>
    rw [hr] at h ho
    cases ho
    apply h
  | closed =>
    rw [hr] at h
    apply h.elim

/-! ### The plan of a read -/

theorem checkEnd_eq_ok_iff {path : Path} {ending : PlanEnd} :
  checkEnd path range ending = .ok () ↔ ending = .complete
  := by
  cases ending <;> simp [checkEnd]

theorem behind_lt_of_checkRange {recordCount : UInt64}
    (h : checkRange recordCount range = .ok ()) :
  range.behind < UInt64.size
  := Nat.lt_of_le_of_lt (checkRange_eq_ok_iff.mp h).2 recordCount.toNat_lt

/-- Only for a range without rows are there no windows, if the plan comes to its end. -/
theorem limit_eq_zero_of_windows {f : FileFooter} {n : UInt64} {ws : List Window}
    (hc : checkRange n range = .ok ()) (he : (RowPlan.ofRange f range).ending = .complete)
    (hn : ws.length = (RowPlan.ofRange f range).selections.length) (hw : ws = []) :
  range.limit = 0
  := by
  apply Decidable.byContradiction
  intro hl
  apply RowPlan.selections_ne_nil (behind_lt_of_checkRange hc) hl he
  rw [← List.length_eq_zero_iff, ← hn, hw, List.length_nil]

/-! ### Reading -/

variable [Ipc.Decoder]

/-- A read does not change what a reader holds. -/
theorem holds_read (range : RowRange) (h : Holds V c r s) :
  Holds V c (read range (r, s)).2.1 (read range (r, s)).2.2
  := by
  have hs := read_step range r s
  generalize read range (r, s) = a at hs
  cases hs with
  | refused _ => apply h
  | unopened _ ho => apply holds_of_kept h (kept_of_ensureOpen V ho)
  | failed _ ho hr =>
    apply (steady_of_readOpened V hr).2.trans
    apply ensureOpen_eq_ok h ho
  | answered _ ho hr =>
    apply (steady_of_readOpened V hr).2.trans
    apply ensureOpen_eq_ok h ho

/-! ### Reads that succeed -/

theorem answerWindows_eq_ok {plan : RowPlan} {ws : List Window} {x y : τ × σ} {answer : Answer}
    (hn : ws ≠ []) (h : answerWindows r range plan ws x = (.ok answer, y)) :
  answer.windows = ws ∧ answer.footerSchema? = r.footerSchema?
  := by
  rw [answerWindows] at h
  rw [if_neg hn] at h
  cases h
  exact ⟨rfl, rfl⟩

theorem readOpened_eq_ok {x y : τ × σ} {answer : Answer}
    (h : readOpened r range x = (.ok answer, y)) :
  ∃ ws x₁ x₂, readSelections r.path r.config
      (RowPlan.ofRange r.metadata.footer range).selections x = (.ok ws, x₁)
    ∧ (RowPlan.ofRange r.metadata.footer range).ending = .complete
    ∧ answerWindows r range (RowPlan.ofRange r.metadata.footer range) ws x₁ = (.ok answer, x₂)
  := by
  obtain ⟨ws, x₁, h1, h2⟩ := Action.bind_eq_ok_iff.mp h
  obtain ⟨_, x₂, h3, h4⟩ := Action.bind_eq_ok_iff.mp h2
  obtain ⟨answer', x₃, h5, h6⟩ := Action.bind_eq_ok_iff.mp h4
  obtain ⟨he, rfl⟩ := Prod.mk.inj h3
  obtain ⟨_, x₄, -, h7⟩ := Action.bind_eq_ok_iff.mp h6
  obtain ⟨ha, -⟩ := Prod.mk.inj h7
  cases ha
  use ws, x₁, x₃, h1, checkEnd_eq_ok_iff.mp he

/-- A read of rows that succeeds has come to the end of its plan and gives the windows that
the plan asks for of the contents. -/
theorem gives_of_read {ws : List Window} {y : Reader τ × σ} (h : Holds V c r s)
    (hl : range.limit ≠ 0) (hr : read range (r, s) = (.ok ws, y)) :
  checkRange r.metadata.recordCount range = .ok ()
    ∧ (RowPlan.ofRange r.metadata.footer range).ending = .complete
    ∧ List.Forall₂ (Selection.Gives r.config c)
      (RowPlan.ofRange r.metadata.footer range).selections ws
  := by
  have hs := read_step range r s
  rw [hr] at hs
  cases hs with
  | answered hc ho ha =>
    obtain ⟨ws', x₁, x₂, h1, h2, h3⟩ := readOpened_eq_ok ha
    have hg := readSelections_eq_ok V (ensureOpen_eq_ok h ho) h1
    have hn : ws' ≠ [] := by
      rintro rfl
      apply RowPlan.selections_ne_nil (behind_lt_of_checkRange hc) hl h2
      apply List.forall₂_nil_right_iff.mp hg
    rw [(answerWindows_eq_ok hn h3).1]
    exact ⟨hc, h2, hg⟩

end Reader

end BatchFile
