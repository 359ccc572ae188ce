import BatchFile.Proofs.Related
import BatchFile.Proofs.RecordBatch
import BatchFile.Window.Concat

/-!
# The rows of joined windows

Tables are joined column by column, by position, under the schema of the first of them.  This
succeeds just if the columns of every other table can stand under the fields of the first one
(`RecordBatch.StandsUnder`), a word holds the number of all rows, and one column of its type can
hold what is joined at each position (`Window.Joinable`).  Names play no part in it, and neither do
columns that lie beyond the last field, nor whether the other tables would allow nulls which they
do not have.  The rows are those of all tables, cut to the width of the first one
(`Window.Joined`), and a failure says what is in the way (`Window.Obstacle`).
-/

namespace BatchFile

namespace Window

open RecordBatch

/-- The rows of the first columns of tables, joined by position, are the rows of all tables, cut
to the number of these columns. -/
theorem rowsOf_flatMap_valuesAt {n : Nat} {bs : List RecordBatch}
    (h : ∀ b ∈ bs, n ≤ b.columns.length) :
  rowsOf (totalRows bs) ((List.range n).map fun i => bs.flatMap fun b => b.valuesAt i)
    = bs.flatMap fun b => b.rows.map (List.take n)
  := by
  induction bs with
  | nil => rfl
  | cons b bs ih =>
    obtain ⟨hb, h⟩ := List.forall_mem_cons.mp h
    have hl : ∀ i ∈ List.range n, (b.valuesAt i).length = b.rowCount := by
      intro i hi
      rw [List.mem_range] at hi
      apply length_valuesAt (by omega)
    simp only [totalRows, List.flatMap_cons]
    rw [rowsOf_append hl, ih h, map_valuesAt hb, rowsOf_take]
    rfl

/-! ### Joining the columns at a position -/

variable {first b : RecordBatch} {others : List RecordBatch} {i : Nat} {c y : Column}
  {cs : List Column} {e : Failure ConcatError}

theorem columnsAt_eq_ok (h : columnsAt i others = .ok cs) :
  List.Forall₂ (fun b c => b.columns[i]? = some c) others cs
  := by
  induction others generalizing cs with
  | nil =>
    cases h
    apply List.Forall₂.nil
  | cons b bs ih =>
    rw [columnsAt] at h
    split at h
    case h_1 => cases h
    case h_2 c hc =>
      obtain ⟨ds, hd, h⟩ := exceptBind_eq_ok_iff.mp h
      cases h
      exact .cons hc (ih hd)

theorem columnsAt_eq_error (h : columnsAt i others = .error e) :
  ∃ b ∈ others, b.columns.length ≤ i
    ∧ e = .panicked (.indexOutOfBounds i b.columns.length)
  := by
  induction others with
  | nil => cases h
  | cons b bs ih =>
    rw [columnsAt] at h
    split at h
    case h_1 hn =>
      cases h
      exact ⟨b, List.mem_cons_self, List.getElem?_eq_none_iff.mp hn, rfl⟩
    case h_2 c hc =>
      obtain hs | ⟨ds, -, h⟩ := exceptBind_eq_error_iff.mp h
      · obtain ⟨b', hb, hl⟩ := ih hs
        exact ⟨b', List.mem_cons_of_mem b hb, hl⟩
      · cases h

theorem flatMap_valuesAt (h : List.Forall₂ (fun b c => b.columns[i]? = some c) others cs) :
  (others.flatMap fun b => b.valuesAt i) = cs.flatMap Column.values
  := by
  induction h with
  | nil => rfl
  | cons hb _ ih => rw [List.flatMap_cons, List.flatMap_cons, ih, valuesAt_eq hb]

theorem joinSlots?_cons_eq_some_iff {d : Column} {ds : List Column} :
  joinSlots? c (d :: ds) = some y ↔ ∃ z, c.append? d = some z ∧ joinSlots? z ds = some y
  := by
  rw [joinSlots?]
  cases c.append? d <;> simp

/-- Joined slots are of the type of each column. -/
theorem type_of_joinSlots? (h : joinSlots? c cs = some y) :
  ∀ d ∈ c :: cs, d.type = y.type
  := by
  induction cs generalizing c with
  | nil =>
    cases h
    simp
  | cons d ds ih =>
    obtain ⟨z, hz, h⟩ := joinSlots?_cons_eq_some_iff.mp h
    obtain ⟨hy, hd⟩ := List.forall_mem_cons.mp (ih h)
    have hc : c.type = d.type := (Column.isSome_append? c d).mp (hz ▸ rfl)
    rw [Column.type_of_append? hz] at hy
    simp only [List.forall_mem_cons]
    exact ⟨hy, hc ▸ hy, hd⟩

theorem values_of_joinSlots? (h : joinSlots? c cs = some y) :
  y.values = (c :: cs).flatMap Column.values
  := by
  induction cs generalizing c with
  | nil =>
    cases h
    simp
  | cons d ds ih =>
    obtain ⟨z, hz, h⟩ := joinSlots?_cons_eq_some_iff.mp h
    simp only [ih h, List.flatMap_cons, Column.values_of_append? hz, List.append_assoc]

/-- Joined slots can stand under a field just if those of each column can. -/
theorem admits_of_joinSlots? (f : Field) (h : joinSlots? c cs = some y) :
  f.admits y = true ↔ ∀ d ∈ c :: cs, f.admits d = true
  := by
  induction cs generalizing c with
  | nil =>
    cases h
    simp
  | cons d ds ih =>
    obtain ⟨z, hz, h⟩ := joinSlots?_cons_eq_some_iff.mp h
    simp only [ih h, List.forall_mem_cons, f.admits_of_append? hz, and_assoc]

theorem exists_type_ne_of_joinSlots? (h : joinSlots? c cs = none) :
  ∃ d ∈ cs, d.type ≠ c.type
  := by
  induction cs generalizing c with
  | nil => cases h
  | cons d ds ih =>
    rw [joinSlots?] at h
    split at h
    case h_1 z hz =>
      obtain ⟨u, hu, ht⟩ := ih h
      rw [Column.type_of_append? hz] at ht
      exact ⟨u, List.mem_cons_of_mem d hu, ht⟩
    case h_2 hn =>
      use d, List.mem_cons_self
      intro ht
      have hs := (Column.isSome_append? c d).mpr ht.symm
      rw [hn] at hs
      cases hs

theorem slotList_of_append? {a b : Column} (h : a.append? b = some c) :
  c.slotList = a.slotList ++ b.slotList
  := by
  obtain ⟨m, n, rfl, rfl, rfl⟩ | ⟨t, ss, us, ht, rfl, rfl, rfl⟩ := Column.append?_eq_some h
  · rfl
  · rfl

theorem slotList_of_joinSlots? (h : joinSlots? c cs = some y) :
  y.slotList = (c :: cs).flatMap Column.slotList
  := by
  induction cs generalizing c with
  | nil =>
    cases h
    simp
  | cons d ds ih =>
    obtain ⟨z, hz, h⟩ := joinSlots?_cons_eq_some_iff.mp h
    simp only [ih h, List.flatMap_cons, slotList_of_append? hz, List.append_assoc]

theorem length_slotList_le (b : RecordBatch) (i : Nat) :
  ((b.columns[i]?.map Column.slotList).getD []).length ≤ b.rowCount
  := by
  cases h : b.columns[i]? with
  | none => exact Nat.zero_le b.rowCount
  | some c =>
    obtain ⟨hi, rfl⟩ := List.getElem?_eq_some_iff.mp h
    rw [← length_valuesAt hi, valuesAt_eq h, Column.length_values]
    apply Column.length_slotList_le

/-- The slots that tables have at a position, one after another. -/
def slotsAt (i : Nat) (bs : List RecordBatch) : List Slot :=
  bs.flatMap fun b => (b.columns[i]?.map Column.slotList).getD []

theorem slotsAt_eq {bs : List RecordBatch}
    (h : List.Forall₂ (fun b c => b.columns[i]? = some c) bs cs) :
  slotsAt i bs = cs.flatMap Column.slotList
  := by
  induction h with
  | nil => rfl
  | cons hb _ ih => rw [slotsAt, List.flatMap_cons, List.flatMap_cons, ← slotsAt, ih, hb]; rfl

/-- A table has at most one slot for each row at a position. -/
theorem length_slotsAt_le (i : Nat) (bs : List RecordBatch) :
  (slotsAt i bs).length ≤ totalRows bs
  := by
  induction bs with
  | nil => exact Nat.le_refl 0
  | cons b bs ih =>
    rw [slotsAt, List.flatMap_cons, ← slotsAt, List.length_append, totalRows]
    apply Nat.add_le_add (length_slotList_le b i) ih

/-- A column joins those that a first table and others have at a position. -/
def JoinsAt (first : RecordBatch) (others : List RecordBatch) (i : Nat) (y : Column) : Prop :=
  ∃ c cs, List.Forall₂ (fun b d => b.columns[i]? = some d) (first :: others) (c :: cs)
    ∧ joinSlots? c cs = some y

namespace JoinsAt

theorem values_eq (h : JoinsAt first others i y) :
  y.values = (first :: others).flatMap fun b => b.valuesAt i
  := by
  obtain ⟨c, cs, hc, hj⟩ := h
  rw [values_of_joinSlots? hj, flatMap_valuesAt hc]

theorem lt_length (h : JoinsAt first others i y) :
  ∀ b ∈ first :: others, i < b.columns.length
  := by
  intro b hb
  obtain ⟨c, cs, hc, -⟩ := h
  obtain ⟨d, -, hd⟩ := exists_of_mem_left hc hb
  apply (List.getElem?_eq_some_iff.mp hd).1

theorem length_eq (h : JoinsAt first others i y) :
  y.length = totalRows (first :: others)
  := by
  rw [← y.length_values, h.values_eq]
  have hl := h.lt_length
  generalize first :: others = bs at hl
  induction bs with
  | nil => rfl
  | cons b bs ih =>
    obtain ⟨hb, hl⟩ := List.forall_mem_cons.mp hl
    rw [List.flatMap_cons, List.length_append, length_valuesAt hb, ih hl, totalRows]

theorem slotList_eq (h : JoinsAt first others i y) :
  y.slotList = slotsAt i (first :: others)
  := by
  obtain ⟨c, cs, hc, hj⟩ := h
  rw [slotsAt_eq hc, slotList_of_joinSlots? hj]

theorem type_eq (h : JoinsAt first others i y) {b : RecordBatch} (hb : b ∈ first :: others)
    {d : Column} (hd : b.columns[i]? = some d) :
  d.type = y.type
  := by
  obtain ⟨c, cs, hc, hj⟩ := h
  obtain ⟨d', hm, hd'⟩ := exists_of_mem_left hc hb
  rw [hd] at hd'
  cases hd'
  apply type_of_joinSlots? hj d hm

theorem admits_iff (h : JoinsAt first others i y) (f : Field) :
  f.admits y = true ↔
    ∀ b ∈ first :: others, ∃ d, b.columns[i]? = some d ∧ f.admits d = true
  := by
  obtain ⟨c, cs, hc, hj⟩ := h
  rw [admits_of_joinSlots? f hj]
  constructor
  · intro ha b hb
    obtain ⟨d, hm, hd⟩ := exists_of_mem_left hc hb
    exact ⟨d, hd, ha d hm⟩
  · intro ha d hm
    obtain ⟨b, hb, hd⟩ := exists_of_mem_right hc hm
    obtain ⟨d', hd', hf⟩ := ha b hb
    rw [hd] at hd'
    cases hd'
    apply hf

end JoinsAt

/-- A position with a column has a field of the column's type. -/
theorem exists_field (h : first.columns[i]? = some c) :
  ∃ f, first.schema.fields[i]? = some f ∧ f.admits c = true
  := by
  obtain ⟨hi, rfl⟩ := List.getElem?_eq_some_iff.mp h
  have hf : i < first.schema.fields.length := by rwa [← length_columns]
  use first.schema.fields[i], List.getElem?_eq_getElem hf
  apply (first.forall₂_columns.get hf hi).1

theorem totalRows_map_slice (ws : List Window) :
  totalRows (ws.map slice) = totalSize ws
  := by
  induction ws with
  | nil => rfl
  | cons w ws ih => rw [List.map_cons, totalRows, totalSize, w.rowCount_slice, ih]

/-! ### Joined tables -/

/-- A table is made of a first table and of others: it has the schema of the first one and the
rows of all, cut to the width of this schema. -/
structure Joined (first : RecordBatch) (others : List RecordBatch) (b : RecordBatch) :
    Prop where
  schema_eq : b.schema = first.schema
  rowCount_eq : b.rowCount = totalRows (first :: others)
  rows_eq : b.rows
    = (first :: others).flatMap fun t => t.rows.map (List.take first.schema.fields.length)

/-- A result of joining windows has as many rows as they select, and these rows, cut to the width
of the first schema. -/
theorem Joined.of_slices {w : Window} {ws : List Window}
    (h : Joined w.slice (ws.map slice) b) :
  b.schema = w.schema ∧ b.rowCount = totalSize (w :: ws)
    ∧ b.rows = (w :: ws).flatMap fun v => v.rows.map (List.take w.schema.fields.length)
  := by
  refine ⟨h.schema_eq, ?_, ?_⟩
  · rw [h.rowCount_eq, ← List.map_cons, totalRows_map_slice]
  · rw [h.rows_eq, ← List.map_cons, List.flatMap_map]
    rfl

/-! ### Joining a column -/

variable [ColumnLimits]

theorem checkJoined_eq_ok_iff {u : Unit} :
  checkJoined i y = .ok u ↔ y.length < UInt64.size ∧ y.excess? = none
  := by
  rw [checkJoined]
  split
  · rename_i hl
    simp [Nat.not_lt.mpr hl]
  · rename_i hl
    cases y.excess? <;> simp [Nat.lt_of_not_le hl]

theorem checkJoined_eq_error (h : checkJoined i y = .error e) :
  (UInt64.size ≤ y.length ∧ e = .panicked .addOverflow)
    ∨ ∃ x, y.excess? = some x ∧ e = x.failure i
  := by
  rw [checkJoined] at h
  split at h
  case isTrue hl =>
    cases h
    exact .inl ⟨hl, rfl⟩
  case isFalse =>
    split at h
    case h_1 x hx =>
      cases h
      exact .inr ⟨x, hx, rfl⟩
    case h_2 => cases h

theorem joinColumn_eq_ok_iff :
  joinColumn i c others = .ok y
    ↔ ∃ cs, columnsAt i others = .ok cs ∧ joinSlots? c cs = some y
      ∧ (others ≠ [] → checkJoined i y = .ok ())
  := by
  rw [joinColumn, exceptBind_eq_ok_iff]
  apply exists_congr
  intro cs
  apply and_congr_right
  intro _
  cases joinSlots? c cs with
  | none => simp [throw, throwThe, MonadExceptOf.throw]
  | some z =>
    by_cases ho : others = []
    · simp [ho, pure, Except.pure]
    · simp only [ne_eq, ho, not_false_eq_true, if_true, exceptBind_eq_ok_iff, pure, Except.pure,
        Except.ok.injEq, Option.some.injEq, true_imp_iff]
      constructor
      · rintro ⟨_, h, rfl⟩
        exact ⟨rfl, h⟩
      · rintro ⟨rfl, h⟩
        exact ⟨_, h, rfl⟩

/-! ### Tables that can be joined -/

/-- At each position of the first schema, the slots of all tables are not too many for one column
of the type there, if there is anything to be joined. -/
def Fits (first : RecordBatch) (others : List RecordBatch) : Prop :=
  others ≠ [] → ∀ i f, first.schema.fields[i]? = some f →
    ColumnLimits.excess? f.type (slotsAt i (first :: others)) = none

/-- Tables can be joined to a first one: their columns can stand under its fields, a word holds the
number of all rows, and the slots at each position are not too many for one column. -/
structure Joinable (first : RecordBatch) (others : List RecordBatch) : Prop where
  standsUnder : ∀ b ∈ others, b.StandsUnder first.schema.fields
  totalRows_lt : totalRows (first :: others) < UInt64.size
  fits : Fits first others

/-- What is in the way of joining tables to a first one, by the failure that says so. -/
inductive Obstacle (first : RecordBatch) (others : List RecordBatch) :
    Failure ConcatError → Prop where
  | missingColumn {b : RecordBatch} {i : Nat} : b ∈ others → i < first.schema.fields.length →
    b.columns.length ≤ i →
    Obstacle first others (.panicked (.indexOutOfBounds i b.columns.length))
  | typeMismatch {b : RecordBatch} {i : Nat} {f : Field} {c : Column} : b ∈ others →
    first.schema.fields[i]? = some f → b.columns[i]? = some c → c.type ≠ f.type →
    Obstacle first others (.returned (.typeMismatch i))
  | tooManyRows : UInt64.size ≤ totalRows (first :: others) →
    Obstacle first others (.panicked .addOverflow)
  | excess {i : Nat} {f : Field} {x : Excess} : others ≠ [] →
    first.schema.fields[i]? = some f →
    ColumnLimits.excess? f.type (slotsAt i (first :: others)) = some x →
    Obstacle first others (x.failure i)
  | unexpectedNull {b : RecordBatch} {i : Nat} {f : Field} {c : Column} : b ∈ others →
    first.schema.fields[i]? = some f → f.nullable = false → b.columns[i]? = some c →
    c.nullCount ≠ 0 → Obstacle first others (.returned .unexpectedNull)

/-- Tables with something in the way cannot be joined. -/
theorem Obstacle.not_joinable (h : Obstacle first others e) :
  ¬ Joinable first others
  := by
  intro hj
  cases h with
  | missingColumn hb hi hl =>
    have hn := (hj.standsUnder _ hb).length_le
    omega
  | typeMismatch hb hf hc ht =>
    obtain ⟨d, hd, ha⟩ := hj.standsUnder _ hb _ _ hf
    rw [hc] at hd
    cases hd
    apply ht (Field.admits_iff.mp ha).1
  | tooManyRows hn =>
    have hl := hj.totalRows_lt
    omega
  | excess ho hf hx =>
    rw [hj.fits ho _ _ hf] at hx
    cases hx
  | unexpectedNull hb hf hn hc h0 =>
    obtain ⟨d, hd, ha⟩ := hj.standsUnder _ hb _ _ hf
    rw [hc] at hd
    cases hd
    rcases (Field.admits_iff.mp ha).2 with h | h
    · rw [hn] at h
      cases h
    · apply h0 h

/-! ### Successes -/

theorem joinColumn_eq_ok (hc : first.columns[i]? = some c) (h : joinColumn i c others = .ok y) :
  JoinsAt first others i y ∧ (others ≠ [] → y.excess? = none)
  := by
  obtain ⟨cs, hs, hj, hl⟩ := joinColumn_eq_ok_iff.mp h
  use ⟨c, cs, .cons hc (columnsAt_eq_ok hs), hj⟩
  intro ho
  exact (checkJoined_eq_ok_iff.mp (hl ho)).2

/-- The columns that are joined one after another are joined by position. -/
theorem joinsAt_of_forall₂ {columns : List Column}
    (h : List.Forall₂ (fun p y => joinColumn p.2 p.1 others = .ok y) first.columns.zipIdx columns)
    (hy : columns[i]? = some y) :
  JoinsAt first others i y ∧ (others ≠ [] → y.excess? = none)
  := by
  obtain ⟨hi, rfl⟩ := List.getElem?_eq_some_iff.mp hy
  have hz : i < first.columns.zipIdx.length := by rwa [h.length_eq]
  have hj := h.get hz hi
  have hc : i < first.columns.length := by rwa [List.length_zipIdx] at hz
  simp only [List.get_eq_getElem, List.getElem_zipIdx, Nat.zero_add] at hj
  apply joinColumn_eq_ok (List.getElem?_eq_getElem hc) hj

/-- A joined table has the joined columns under the schema of the first table. -/
theorem joinTables_eq_ok (h : joinTables first others = .ok b) :
  (∀ i y, b.columns[i]? = some y →
      JoinsAt first others i y ∧ (others ≠ [] → y.excess? = none))
    ∧ totalRows (first :: others) < UInt64.size
    ∧ b.schema = first.schema ∧ b.rowCount = totalRows (first :: others)
  := by
  obtain ⟨columns, hc, h⟩ := exceptBind_eq_ok_iff.mp h
  dsimp only at h
  split at h
  case isTrue => cases h
  case isFalse hl =>
    split at h
    case h_1 t ht =>
      cases h
      obtain ⟨ha, hb⟩ := Option.dite_none_right_eq_some.mp ht
      cases hb
      refine ⟨?_, Nat.lt_of_not_le hl, rfl, rfl⟩
      intro i y
      apply joinsAt_of_forall₂ (forall₂_of_mapM hc)
    case h_2 => cases h

/-- Tables that have been joined could be. -/
theorem joinable_of_joinTables (h : joinTables first others = .ok b) :
  Joinable first others
  := by
  obtain ⟨hj, hl, hs, -⟩ := joinTables_eq_ok h
  have hu := b.standsUnder_fields
  rw [hs] at hu
  refine ⟨?_, hl, ?_⟩
  · intro t ht i f hf
    obtain ⟨y, hy, ha⟩ := hu i f hf
    apply ((hj i y hy).1.admits_iff f).mp ha t (List.mem_cons_of_mem first ht)
  · intro ho i f hf
    obtain ⟨y, hy, ha⟩ := hu i f hf
    obtain ⟨hj, hx⟩ := hj i y hy
    rw [← hj.slotList_eq, ← (Field.admits_iff.mp ha).1]
    exact hx ho

/-- A joined table has the rows of all tables. -/
theorem joined_of_joinTables (h : joinTables first others = .ok b) :
  Joined first others b
  := by
  obtain ⟨hj, -, hs, hr⟩ := joinTables_eq_ok h
  refine ⟨hs, hr, ?_⟩
  have hw : ∀ t ∈ first :: others, first.schema.fields.length ≤ t.columns.length := by
    rw [List.forall_mem_cons]
    constructor
    · apply Nat.le_of_eq first.length_columns.symm
    · intro t ht
      apply ((joinable_of_joinTables h).standsUnder t ht).length_le
  have hc : b.columns.map Column.values = (List.range first.schema.fields.length).map
      fun i => (first :: others).flatMap fun t => t.valuesAt i := by
    apply List.ext_getElem
    · rw [List.length_map, List.length_map, List.length_range, b.length_columns, hs]
    · intro i h1 h2
      rw [List.getElem_map, List.getElem_map, List.getElem_range]
      apply (hj i _ (List.getElem?_eq_getElem _)).1.values_eq
  rw [RecordBatch.rows, hr, hc, rowsOf_flatMap_valuesAt hw]

/-! ### Failures -/

theorem obstacle_of_joinColumn (hc : first.columns[i]? = some c)
    (h : joinColumn i c others = .error e) :
  Obstacle first others e
  := by
  obtain ⟨f, hf, ha⟩ := exists_field hc
  rcases exceptBind_eq_error_iff.mp h with h | ⟨cs, hs, h⟩
  · obtain ⟨b, hb, hl, rfl⟩ := columnsAt_eq_error h
    apply Obstacle.missingColumn hb (List.getElem?_eq_some_iff.mp hf).1 hl
  · have hs := columnsAt_eq_ok hs
    split at h
    case h_1 hn =>
      cases h
      obtain ⟨d, hd, ht⟩ := exists_type_ne_of_joinSlots? hn
      obtain ⟨b, hb, hbd⟩ := exists_of_mem_right hs hd
      rw [(Field.admits_iff.mp ha).1] at ht
      apply Obstacle.typeMismatch hb hf hbd ht
    case h_2 y hy =>
      have hj : JoinsAt first others i y := ⟨c, cs, .cons hc hs, hy⟩
      split at h
      case isFalse => cases h
      case isTrue ho =>
        rcases exceptBind_eq_error_iff.mp h with h | ⟨_, -, h⟩
        · rcases checkJoined_eq_error h with ⟨hl, rfl⟩ | ⟨x, hx, rfl⟩
          · rw [hj.length_eq] at hl
            apply Obstacle.tooManyRows hl
          · apply Obstacle.excess ho hf
            rw [← hj.slotList_eq, ← hx, Column.excess?, ← hj.type_eq List.mem_cons_self hc,
              (Field.admits_iff.mp ha).1]
        · cases h

/-- Joined columns that do not fit under the first schema have a null where it allows none. -/
theorem obstacle_of_not_admitsAll {columns : List Column}
    (hj : ∀ i y, columns[i]? = some y → JoinsAt first others i y)
    (hl : columns.length = first.columns.length)
    (h : ¬ admitsAll first.schema.fields columns (totalRows (first :: others)) = true) :
  Obstacle first others (.returned .unexpectedNull)
  := by
  by_contra ho
  apply h
  rw [admitsAll_iff, List.forall₂_iff_get]
  use (hl.trans first.length_columns).symm
  intro i h1 h2
  have hf : first.schema.fields[i]? = some first.schema.fields[i] := List.getElem?_eq_getElem h1
  have hy := hj i columns[i] (List.getElem?_eq_getElem h2)
  refine ⟨(hy.admits_iff _).mpr ?_, hy.length_eq⟩
  rw [List.forall_mem_cons]
  obtain ⟨c, hc, ha⟩ := first.standsUnder_fields i _ hf
  refine ⟨⟨c, hc, ha⟩, ?_⟩
  intro b hb
  have hm := List.mem_cons_of_mem first hb
  have hi := hy.lt_length b hm
  have hd : b.columns[i]? = some b.columns[i] := List.getElem?_eq_getElem hi
  refine ⟨_, hd, Field.admits_iff.mpr ⟨?_, ?_⟩⟩
  · rw [hy.type_eq hm hd, ← hy.type_eq List.mem_cons_self hc]
    apply (Field.admits_iff.mp ha).1
  · by_contra hn
    rw [not_or, Bool.not_eq_true] at hn
    apply ho (.unexpectedNull hb hf hn.1 hd hn.2)

/-- If joining tables fails, then the error says what is in the way. -/
theorem obstacle_of_joinTables (h : joinTables first others = .error e) :
  Obstacle first others e
  := by
  rcases exceptBind_eq_error_iff.mp h with h | ⟨columns, hc, h⟩
  · obtain ⟨⟨c, i⟩, hp, he⟩ := exists_of_mapM_eq_error h
    apply obstacle_of_joinColumn (List.mk_mem_zipIdx_iff_getElem?.mp hp) he
  · dsimp only at h
    split at h
    case isTrue hl =>
      cases h
      apply Obstacle.tooManyRows hl
    case isFalse =>
      split at h
      case h_1 => cases h
      case h_2 hn =>
        cases h
        have hs := forall₂_of_mapM hc
        apply obstacle_of_not_admitsAll fun i y hy => (joinsAt_of_forall₂ hs hy).1
        · rw [← hs.length_eq, List.length_zipIdx]
        · intro ha
          rw [ofColumns?, dif_pos ha] at hn
          cases hn

/-- Tables that can be joined begin with the types of the first one. -/
theorem Joinable.types_begin (h : Joinable first others) (hb : b ∈ others) :
  first.schema.fields.map Field.type <+: b.schema.fields.map Field.type
  := by
  rw [List.prefix_iff_getElem?]
  intro i hi
  rw [List.length_map] at hi
  obtain ⟨c, hc, ha⟩ := h.standsUnder b hb i _ (List.getElem?_eq_getElem hi)
  obtain ⟨f, hf, hf'⟩ := exists_field hc
  rw [List.getElem?_map, hf, List.getElem_map, ← (Field.admits_iff.mp ha).1,
    (Field.admits_iff.mp hf').1]
  rfl

/-! ### Joining windows -/

variable {w : Window} {ws : List Window}

theorem concat_eq_ok_iff {x : Option RecordBatch} :
  concat (w :: ws) = .ok x ↔ ∃ b, joinTables w.slice (ws.map slice) = .ok b ∧ x = some b
  := by
  rw [concat, exceptBind_eq_ok_iff]
  simp only [pure, Except.pure, Except.ok.injEq, eq_comm (a := x)]

theorem concat_eq_error_iff :
  concat (w :: ws) = .error e ↔ joinTables w.slice (ws.map slice) = .error e
  := by
  rw [concat, exceptBind_eq_error_iff]
  simp [pure, Except.pure]

/-- Windows are joined if the selected rows can be. -/
theorem exists_concat (h : Joinable w.slice (ws.map slice)) :
  ∃ b, concat (w :: ws) = .ok (some b) ∧ Joined w.slice (ws.map slice) b
  := by
  cases hj : joinTables w.slice (ws.map slice) with
  | error e => exact ((obstacle_of_joinTables hj).not_joinable h).elim
  | ok b => exact ⟨b, concat_eq_ok_iff.mpr ⟨b, hj, rfl⟩, joined_of_joinTables hj⟩

/-- The selected slots of windows are not too many for one table. -/
def FitTogether : List Window → Prop
  | [] => True
  | w :: ws => Fits w.slice (ws.map slice)

/-- Windows of one schema can be joined if a word holds the number of their rows and their slots
are not too many for one table. -/
theorem joinable_of_schema (hs : ∀ v ∈ ws, v.schema = w.schema)
    (hn : totalSize (w :: ws) < UInt64.size) (hf : FitTogether (w :: ws)) :
  Joinable w.slice (ws.map slice)
  where
  standsUnder := by
    rw [List.forall_mem_map]
    intro v hv
    have h := v.slice.standsUnder_fields
    rwa [show v.slice.schema = w.slice.schema from hs v hv] at h
  totalRows_lt := by rwa [← List.map_cons, totalRows_map_slice]
  fits := hf

/-- Windows of one schema are joined to a table of this schema that has the selected rows of all
windows, if a word holds their number and their slots are not too many for one table. -/
theorem exists_concat_of_schema (hs : ∀ v ∈ ws, v.schema = w.schema)
    (hn : totalSize (w :: ws) < UInt64.size) (hf : FitTogether (w :: ws)) :
  ∃ b, concat (w :: ws) = .ok (some b) ∧ b.schema = w.schema
    ∧ b.rowCount = totalSize (w :: ws) ∧ b.rows = (w :: ws).flatMap rows
  := by
  obtain ⟨b, hb, hj⟩ := exists_concat (joinable_of_schema hs hn hf)
  obtain ⟨hs', hn', hr⟩ := hj.of_slices
  refine ⟨b, hb, hs', hn', ?_⟩
  rw [hr]
  apply List.flatMap_congr
  intro v hv
  have hv : v.slice.schema = w.schema := by
    rcases List.mem_cons.mp hv with rfl | hv
    · rfl
    · apply hs v hv
  rw [← hv]
  apply v.slice.map_take_rows

/-- Windows are joined by position.  This succeeds just if the selected part of each later window
has, at the position of each field of the first window's schema, a column of this field's type, and
no null there unless the field allows it, if a word holds the number of all rows, and if the slots
at each position are not too many for one column, where there is anything to join.  The result has
the schema of the first window and the selected rows of all windows, in order, cut to the width of
this schema.  So the later schemas begin with the types of the first one, but what their fields are
called, whether they allow nulls and what columns come behind has no influence.  A failure says what
is in the way. -/
theorem concat_by_position (w : Window) (ws : List Window) :
  ((∃ x, concat (w :: ws) = .ok x) ↔ Joinable w.slice (ws.map slice))
  ∧ (∀ x, concat (w :: ws) = .ok x → ∃ b, x = some b ∧ b.schema = w.schema
    ∧ b.rowCount = totalSize (w :: ws)
    ∧ (b.rows = (w :: ws).flatMap fun v => v.rows.map (List.take w.schema.fields.length))
    ∧ ∀ v ∈ ws, w.schema.fields.map Field.type <+: v.schema.fields.map Field.type)
  ∧ ∀ e, concat (w :: ws) = .error e → Obstacle w.slice (ws.map slice) e
  := by
  refine ⟨⟨?_, ?_⟩, ?_, ?_⟩
  · rintro ⟨x, h⟩
    obtain ⟨b, hj, -⟩ := concat_eq_ok_iff.mp h
    apply joinable_of_joinTables hj
  · intro h
    obtain ⟨b, hb, -⟩ := exists_concat h
    exact ⟨some b, hb⟩
  · intro x h
    obtain ⟨b, hj, rfl⟩ := concat_eq_ok_iff.mp h
    obtain ⟨hs, hn, hr⟩ := (joined_of_joinTables hj).of_slices
    refine ⟨b, rfl, hs, hn, hr, ?_⟩
    intro v hv
    apply (joinable_of_joinTables hj).types_begin (List.mem_map_of_mem hv)
  · intro e h
    apply obstacle_of_joinTables (concat_eq_error_iff.mp h)

end Window

/-! ### Windows of different schemas -/

namespace Sample

/-- A field of integers. -/
def integerField (name : String) : Field := ⟨name, .integer true .w64, false⟩

/-- A column of integers. -/
def integerColumn (ns : List Int) : Column := .ofValues (.integer true .w64) (ns.map .integer)

/-- A table with the columns `a` and `b`. -/
def orderedTable : RecordBatch where
  schema := ⟨[integerField "a", integerField "b"], []⟩
  columns := [integerColumn [1, 3], integerColumn [2, 4]]
  rowCount := 2
  consistent := by decide

/-- A table that has these columns in the other order, and one more. -/
def swappedTable : RecordBatch where
  schema := ⟨[integerField "b", integerField "a", integerField "c"], []⟩
  columns := [integerColumn [0, 5], integerColumn [0, 6], integerColumn [0, 7]]
  rowCount := 2
  consistent := by decide

/-- The first table, whole. -/
def orderedWindow : Window := ⟨orderedTable, 0, 2, by decide, by decide⟩

/-- The last row of the second table. -/
def swappedWindow : Window := ⟨swappedTable, 1, 2, by decide, by decide⟩

end Sample

/-- The row of a table with its columns in another order is taken as it is, without its last
value. -/
theorem Window.concat_by_position_swapped :
  ∃ b, concat [Sample.orderedWindow, Sample.swappedWindow] = .ok (some b)
    ∧ b.schema = Sample.orderedTable.schema
    ∧ b.rows = [[1, 2], [3, 4], [5, 6]].map (List.map Value.integer)
  := by
  obtain ⟨-, h, -⟩ := concat_by_position Sample.orderedWindow [Sample.swappedWindow]
  obtain ⟨x, hx⟩ : ∃ x, concat [Sample.orderedWindow, Sample.swappedWindow] = .ok x := by
    apply exists_of_isOk
    decide +kernel
  obtain ⟨b, rfl, hs, -, hr, -⟩ := h x hx
  use b, hx, hs
  rw [hr]
  decide +kernel

/-- Windows with other names of columns, and more columns, are joined. -/
theorem Window.concat_of_other_schema :
  ¬ ∀ (w : Window) (ws : List Window), (∃ v ∈ ws, v.schema.fields ≠ w.schema.fields) →
    ∃ e, concat (w :: ws) = .error e
  := by
  intro h
  obtain ⟨e, he⟩ := h Sample.orderedWindow [Sample.swappedWindow]
    ⟨_, List.mem_singleton_self _, by decide⟩
  have hx : (concat [Sample.orderedWindow, Sample.swappedWindow]).isOk = true := by decide +kernel
  rw [he] at hx
  cases hx

end BatchFile
