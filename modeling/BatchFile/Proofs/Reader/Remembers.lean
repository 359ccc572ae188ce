import BatchFile.Proofs.Reader.Over

/-!
# What a reader keeps from one read to the next

Besides its stream a reader keeps the schema that it has read from a footer.  While the file
is unchanged that is the schema of the contents (`remembers_read`), only a read without rows can
tell whether it is there (`readIn_congr`), and so it makes no difference to what is read
(`read_of_remembers`).  A reader that is open stays so until it is closed (`isOpen_read`), and
then gives no rows any more (`read_of_closed`).
-/

namespace BatchFile

namespace Reader

open Storage

variable {σ τ : Type} [Storage σ τ] [Ipc.Decoder] {V : View σ τ} {c : Bytes} {r : Reader τ} {s : σ}
  {range : RowRange} {path : Path} {config : ReaderConfig}

/-! ### What a reader remembers -/

/-- The schema that the reader has read from a footer is that of the contents. -/
def Remembers (c : Bytes) (r : Reader τ) : Prop :=
  ∀ schema, r.footerSchema? = some schema → ∃ footer, Framing.footerIn c = .ok (schema, footer)

theorem schemaIn_of_remembers (h : Remembers c r) :
  schemaIn path r.footerSchema? c = schemaIn path none c
  := by
  cases hk : r.footerSchema? with
  | none => rfl
  | some schema =>
    obtain ⟨footer, hf⟩ := h schema hk
    simp only [schemaIn, hf]
    rfl

theorem schemaIn_eq_ok {known? : Option Schema} {schema : Schema}
    (h : schemaIn path known? c = .ok schema) :
  known? = some schema ∨ ∃ footer, Framing.footerIn c = .ok (schema, footer)
  := by
  cases known? with
  | some known =>
    left
    rw [Except.ok.inj h]
  | none =>
    right
    rw [schemaIn] at h
    cases hf : Framing.footerIn c with
    | error e =>
      rw [hf] at h
      cases h
    | ok a =>
      rw [hf] at h
      cases h
      exact ⟨a.2, rfl⟩

theorem remembers_of_answerEmpty {x y : τ × σ} {answer : Answer}
    (hx : ShowsFile V r.path c x) (hr : Remembers c r)
    (h : answerEmpty r x = (.ok answer, y)) (schema : Schema)
    (ha : answer.footerSchema? = some schema) :
  ∃ footer, Framing.footerIn c = .ok (schema, footer)
  := by
  rw [answerEmpty] at h
  cases hm : r.metadata.schema? with
  | some known =>
    rw [hm] at h
    cases h
    apply hr schema ha
  | none =>
    rw [hm] at h
    obtain ⟨found, z, hf, hz⟩ := Action.bind_eq_ok_iff.mp h
    have hq := (yields_footerSchema r.footerSchema? x hx).1
    rw [hf] at hq
    cases hz
    cases ha
    rcases schemaIn_eq_ok hq.symm with h1 | h1
    · apply hr schema h1
    · apply h1

/-- While the file is unchanged, whatever a reader remembers is right. -/
theorem remembers_read (range : RowRange) (h : Over V c r s) (hf : V.file? r.path s = some c)
    (hr : Remembers c r) :
  Remembers c (read range (r, s)).2.1
  := by
  have hs := read_step range r s
  generalize read range (r, s) = a at hs
  cases hs with
  | refused _ => apply hr
  | unopened _ _ => apply hr
  | failed _ _ _ => apply hr
  | @answered t _ s₁ _ answer _ ho ha =>
    have hx : ShowsFile V r.path c (t, s₁) :=
      ⟨shows_of_ensureOpen h ho, ((kept_of_ensureOpen V ho).file r.path).trans hf⟩
    obtain ⟨ws, x₁, x₂, h1, -, h3⟩ := readOpened_eq_ok ha
    have hm := moves_readSelections V.frame.toStreamFrame r.path r.config
      (RowPlan.ofRange r.metadata.footer range).selections (t, s₁)
    rw [h1] at hm
    intro schema hq
    by_cases hn : ws = []
    · rw [answerWindows] at h3
      rw [if_pos hn] at h3
      apply remembers_of_answerEmpty (showsFile_of_steady hm hx) hr h3 schema hq
    · have he := (answerWindows_eq_ok hn h3).2
      apply hr schema (he.symm.trans hq)

/-- What a read gives depends on the windows of its plan, and on the schema that is known only
if it is without rows. -/
theorem readIn_congr {c' : Bytes} {m : FileMetadata} {known? known'? : Option Schema}
    (hc : checkRange m.recordCount range = .ok ())
    (hw : windowsIn V path config c' (RowPlan.ofRange m.footer range).selections
      = windowsIn V path config c (RowPlan.ofRange m.footer range).selections)
    (hk : range.limit = 0 → schemaIn path (m.schema?.or known'?) c'
      = schemaIn path (m.schema?.or known?) c) :
  readIn V path config m known'? c' range = readIn V path config m known? c range
  := by
  unfold readIn
  simp only
  rw [hw]
  cases hw : windowsIn V path config c (RowPlan.ofRange m.footer range).selections with
  | error e => rfl
  | ok ws =>
    cases he : checkEnd path range (RowPlan.ofRange m.footer range).ending with
    | error e => rfl
    | ok _ =>
      by_cases hl : range.limit = 0
      · rw [hk hl]
      · have hn := windows_ne_nil hc hl (checkEnd_eq_ok_iff.mp he) hw
        simp only [bind, Except.bind, if_neg hn]

/-- If what a reader remembers is right and its file is unchanged, or else if this makes no
difference to the read, then it reads as if it remembered nothing. -/
theorem read_of_remembers (h : Over V c r s)
    (hq : range.limit = 0 → r.metadata.schema? = none →
      V.file? r.path s = some c ∧ Remembers c r) :
  (read range (r, s)).1
    = (do
        checkRange r.metadata.recordCount range
        checkedIn r.path r.config c
        readIn V r.path r.config r.metadata none c range)
  := by
  rw [read_of_over h fun hl hm _ => (hq hl hm).1]
  cases hc : checkRange r.metadata.recordCount range with
  | error e => rfl
  | ok _ =>
    have hk : readIn V r.path r.config r.metadata r.footerSchema? c range
        = readIn V r.path r.config r.metadata none c range := by
      apply readIn_congr hc rfl
      intro hl
      cases hm : r.metadata.schema? with
      | some schema => rfl
      | none => apply schemaIn_of_remembers (hq hl hm).2
    rw [hk]

/-! ### Open and closed readers -/

theorem read_of_closed (hr : r.state = .closed)
    (hc : checkRange r.metadata.recordCount range = .ok ()) :
  (read range (r, s)).1 = .error (.closed r.path)
  := by
  rw [read_eq_of_closed hr hc]

/-- A reader that has read is open. -/
theorem isOpen_of_read {ws : List Window} (h : (read range (r, s)).1 = .ok ws) :
  (read range (r, s)).2.1.isOpen = true
  := by
  have hs := read_step range r s
  generalize read range (r, s) = a at hs h
  cases hs with
  | refused _ => cases h
  | unopened _ _ => cases h
  | failed _ _ _ => cases h
  | answered _ _ _ => rfl

theorem isOpen_read (range : RowRange) (h : r.isOpen = true) :
  (read range (r, s)).2.1.isOpen = true
  := by
  have hs := read_step range r s
  generalize read range (r, s) = a at hs
  cases hs with
  | refused _ => apply h
  | unopened _ _ => apply h
  | failed _ _ _ => rfl
  | answered _ _ _ => rfl

end Reader

end BatchFile
