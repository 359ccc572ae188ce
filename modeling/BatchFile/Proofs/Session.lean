import BatchFile.Proofs.FileMetadata
import BatchFile.Proofs.Reader.Step
import BatchFile.Session

/-!
# Steps of a session

A step that reads, rows or records, leaves the reader and the storage as the read does
(`Session.perform_of_reads`).  Seen from one reader that is neither made, closed nor dropped,
every step is a read of its own or changes nothing (`Session.touched_perform`).
-/

namespace BatchFile

namespace Session

variable {σ τ : Type} {s : Session σ τ} {name other : String} {r : Reader τ}

/-! ### Readers under names -/

theorem reader?_put (s : Session σ τ) (name : String) (r : Reader τ) :
  (s.put name r).reader? name = some r
  := by
  simp [reader?, put]

theorem reader?_forget_of_ne (h : other ≠ name) :
  (s.forget other).reader? name = s.reader? name
  := by
  rw [reader?, forget]
  rw [List.find?_filter]
  congr 2
  funext r
  by_cases hr : r.1 = name
  · simp [hr, Ne.symm h]
  · simp [hr]

theorem reader?_put_of_ne (h : other ≠ name) :
  (s.put other r).reader? name = s.reader? name
  := by
  have hf := reader?_forget_of_ne (s := s) h
  rw [reader?, put]
  rwa [List.find?_cons_of_neg (by simpa using h)]

/-! ### Actions of one reader -/

/-- The session after a reader and the storage have changed to the given ones. -/
def replace (s : Session σ τ) (name : String) (x : Reader τ × σ) : Session σ τ :=
  { s with storage := x.2 }.put name x.1

theorem withReader_snd {α : Type} {x : Action (Reader τ × σ) (Failure Error) α}
    {answer : α → Answer}
    (hr : s.reader? name = some r) :
  (s.withReader name x answer).2 = s.replace name (x (r, s.storage)).2
  := by
  rw [withReader]
  rw [hr]
  simp only
  generalize x (r, s.storage) = a
  obtain ⟨e | a, r', storage⟩ := a <;> rfl

theorem withReader_of_error {α : Type} {x : Action (Reader τ × σ) (Failure Error) α}
    {answer : α → Answer}
    {e : Failure Error} (hr : s.reader? name = some r) (he : (x (r, s.storage)).1 = .error e) :
  (s.withReader name x answer).1 = .failed e
  := by
  rw [withReader]
  rw [hr]
  simp only
  generalize x (r, s.storage) = a at he
  obtain ⟨_ | _, r', storage⟩ := a <;> cases he
  rfl

theorem withReader_of_none {α : Type} {x : Action (Reader τ × σ) (Failure Error) α}
    {answer : α → Answer}
    (hn : s.reader? name = none) :
  (s.withReader name x answer).2 = s
  := by
  rw [withReader]
  rw [hn]

theorem reader?_replace (s : Session σ τ) (name : String) (x : Reader τ × σ) :
  (s.replace name x).reader? name = some x.1
  := reader?_put _ name x.1

theorem reader?_replace_of_ne {x : Reader τ × σ} (h : other ≠ name) :
  (s.replace other x).reader? name = s.reader? name
  := reader?_put_of_ne h

/-! ### Steps -/

/-- The step does not make, close or drop the reader of the given name. -/
def Step.Spares (name : String) : Step → Prop
  | .make other _ _ _ => other ≠ name
  | .close other => other ≠ name
  | .drop other => other ≠ name
  | _ => True

/-- The step reads the rows of a range with the reader of a name, as they are or as records. -/
def Step.Reads (name : String) (range : RowRange) : Step → Prop
  | .read other r => other = name ∧ r = range
  | .readRecords other _ r => other = name ∧ r = range
  | _ => False

theorem Step.reads_read (name : String) (range : RowRange) :
  (Step.read name range).Reads name range
  := ⟨rfl, rfl⟩

theorem Step.reads_readRecords (name : String) (t : RowType) (range : RowRange) :
  (Step.readRecords name t range).Reads name range
  := ⟨rfl, rfl⟩

variable [Storage σ τ] (V : Storage.View σ τ) {range : RowRange} {step : Step}

theorem closeReader_of_none (h : s.reader? name = none) :
  s.closeReader name = s
  := by rw [closeReader, h]

theorem closeReader_of_some (h : s.reader? name = some r) :
  s.closeReader name = s.replace name (r.close s.storage)
  := by
  rw [closeReader, h]
  rfl

theorem closeReader_of_ne (h : other ≠ name) :
  (s.closeReader other).reader? name = s.reader? name
  := by
  rw [closeReader]
  cases s.reader? other with
  | none => rfl
  | some r => apply reader?_put_of_ne h

theorem reader?_closeReader (hr : s.reader? name = some r) :
  (s.closeReader name).reader? name = some { r with state := .closed }
  := by
  rw [closeReader]
  rw [hr, ← Reader.close_fst r s.storage]
  apply reader?_put _ name _

theorem kept_close (r : Reader τ) (s : σ) :
  V.Kept s (r.close s).2
  := by
  rw [Reader.close]
  cases r.state with
  | opened t => apply Trans.trans (V.kept_release t s) (V.kept_report _ _)
  | _ => apply Std.Refl.refl s

theorem kept_closeReader (s : Session σ τ) (name : String) :
  V.Kept s.storage (s.closeReader name).storage
  := by
  rw [closeReader]
  cases s.reader? name with
  | none => apply Std.Refl.refl s.storage
  | some r => apply kept_close V r s.storage

/-! ### Steps that read -/

variable [Ipc.Decoder]

theorem perform_read (hr : s.reader? name = some r) (range : RowRange) :
  (s.perform (.read name range)).2
    = s.replace name (Reader.read range (r, s.storage)).2
  := withReader_snd hr

theorem readRecords_snd (t : RowType) (range : RowRange) (x : Reader τ × σ) :
  (Reader.readRecords t range x).2 = (Reader.read range x).2
  := by
  rw [Reader.readRecords]
  rw [Action.bind_apply]
  generalize Reader.read range x = a
  obtain ⟨e | ws, y⟩ := a <;> rfl

theorem readRecords_eq_error (t : RowType) {x : Reader τ × σ} {e : Failure Error}
    (h : (Reader.read range x).1 = .error e) :
  (Reader.readRecords t range x).1 = .error e
  := by
  rw [Reader.readRecords]
  rw [Action.bind_apply]
  generalize Reader.read range x = a at h
  obtain ⟨_ | ws, y⟩ := a <;> cases h
  rfl

/-- Reading records leaves the reader as reading does. -/
theorem perform_readRecords (hr : s.reader? name = some r) (t : RowType) (range : RowRange) :
  (s.perform (.readRecords name t range)).2
    = s.replace name (Reader.read range (r, s.storage)).2
  := by
  rw [← readRecords_snd t]
  apply withReader_snd hr

theorem perform_of_reads (h : step.Reads name range) (hr : s.reader? name = some r) :
  (s.perform step).2 = s.replace name (Reader.read range (r, s.storage)).2
  := by
  cases step with
  | read other range' =>
    obtain ⟨rfl, rfl⟩ := h
    apply perform_read hr
  | readRecords other t range' =>
    obtain ⟨rfl, rfl⟩ := h
    apply perform_readRecords hr
  | _ => cases h

theorem perform_of_reads_none (h : step.Reads name range) (hr : s.reader? name = none) :
  (s.perform step).2 = s
  := by
  cases step with
  | read other range' =>
    obtain ⟨rfl, rfl⟩ := h
    apply withReader_of_none hr
  | readRecords other t range' =>
    obtain ⟨rfl, rfl⟩ := h
    apply withReader_of_none hr
  | _ => cases h

/-- A read that fails is the answer, whether or not records are asked for. -/
theorem answer_of_reads_error {e : Failure Error} (h : step.Reads name range)
    (hr : s.reader? name = some r) (he : (Reader.read range (r, s.storage)).1 = .error e) :
  (s.perform step).1 = .failed e
  := by
  cases step with
  | read other range' =>
    obtain ⟨rfl, rfl⟩ := h
    apply withReader_of_error hr he
  | readRecords other t range' =>
    obtain ⟨rfl, rfl⟩ := h
    apply withReader_of_error hr (readRecords_eq_error t he)
  | _ => cases h

/-! ### What a step does to one reader -/

/-- A step has read with the reader of a name, or it has left that reader alone and changed
nothing that can be seen of the storage. -/
inductive Touched (s : Session σ τ) (name : String) (s' : Session σ τ) : Prop where
  | read (r : Reader τ) (range : RowRange) (hr : s.reader? name = some r)
      (h : s' = s.replace name (Reader.read range (r, s.storage)).2)
  | other (hr : s'.reader? name = s.reader? name) (hk : V.Kept s.storage s'.storage)

/-- A step that reads touches the reader of any name so. -/
theorem touched_of_reads (hs : step.Reads other range) :
  Touched V s name (s.perform step).2
  := by
  cases hr : s.reader? other with
  | none =>
    rw [perform_of_reads_none hs hr]
    exact .other rfl (Std.Refl.refl s.storage)
  | some r =>
    rw [perform_of_reads hs hr]
    by_cases h : other = name
    · subst h
      exact .read r range hr rfl
    · exact .other (reader?_replace_of_ne h) (Reader.kept_read V range r s.storage)

/-- A step that spares the reader of a name touches it in one of these ways. -/
theorem touched_perform {step : Step} (h : step.Spares name) :
  Touched V s name (s.perform step).2
  := by
  cases step with
  | load base path =>
    have hk := FileMetadata.kept_load V base path s.storage
    unfold perform
    simp only
    generalize FileMetadata.load base path s.storage = a at hk
    obtain ⟨e | m, storage⟩ := a <;> exact .other rfl hk
  | make other base m config =>
    apply Touched.other
    · exact (reader?_put_of_ne h).trans (closeReader_of_ne h)
    · apply kept_closeReader V s other
  | read other range => apply touched_of_reads V (Step.reads_read other range)
  | readRecords other t range => apply touched_of_reads V (Step.reads_readRecords other t range)
  | close other =>
    exact .other (closeReader_of_ne h) (kept_closeReader V s other)
  | drop other =>
    apply Touched.other
    · exact (reader?_forget_of_ne h).trans (closeReader_of_ne h)
    · apply kept_closeReader V s other

end Session

end BatchFile
