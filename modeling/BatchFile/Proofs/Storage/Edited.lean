import BatchFile.Proofs.Storage.Disk

/-!
# Edited files

What becomes of contents when bytes are put into them in place, byte by byte (`Bytes.getElem?_put`).
A view is true to edits (`Storage.Editing`) if it shows the edited contents where a file has been
edited; that of a disk is (`Disk.editing`).
-/

namespace BatchFile

/-! ### Bytes put in place -/

namespace Bytes

variable {position position' distance i : Nat} {x y b : Bytes}

theorem put_eq (h : position + x.length ≤ b.length) :
  put position x b = b.take position ++ x ++ b.drop (position + x.length)
  := by
  rw [put]
  split
  · rename_i hx
    rw [hx, List.append_nil, List.length_nil, Nat.add_zero, List.take_append_drop]
  · rw [resize, Nat.sub_eq_zero_of_le (by omega), List.replicate_zero, List.append_nil]

theorem length_put (h : position + x.length ≤ b.length) :
  (put position x b).length = b.length
  := by
  rw [put_eq h]
  simp only [List.length_append, List.length_take, List.length_drop]
  omega

/-- Bytes put in place are there, and all others are as they were. -/
theorem getElem?_put (h : position + x.length ≤ b.length) :
  (put position x b)[i]?
    = if position ≤ i ∧ i < position + x.length then x[i - position]? else b[i]?
  := by
  have hp : (b.take position).length = position := List.length_take_of_le (by omega)
  rw [put_eq h, List.append_assoc]
  rcases Nat.lt_or_ge i position with hi | hi
  · rw [if_neg (by omega), List.getElem?_append_left (by omega), List.getElem?_take_of_lt hi]
  · rw [List.getElem?_append_right (by omega), hp]
    by_cases hx : i < position + x.length
    · rw [if_pos ⟨hi, hx⟩, List.getElem?_append_left (by omega)]
    · rw [if_neg (by omega), List.getElem?_append_right (by omega), List.getElem?_drop]
      congr 1
      omega

/-- What lies behind the bytes put in place is as it was. -/
theorem drop_put (h : position + x.length ≤ b.length) (hp : position + x.length ≤ position') :
  (put position x b).drop position' = b.drop position'
  := by
  apply List.ext_getElem?
  intro i
  rw [List.getElem?_drop, List.getElem?_drop, getElem?_put h, if_neg (by omega)]

/-- The bytes put in place can be read there. -/
theorem take_drop_put (h : position + x.length ≤ b.length) :
  ((put position x b).drop position).take x.length = x
  := by
  rw [put_eq h, List.append_assoc, List.drop_left' (List.length_take_of_le (by omega)),
    List.take_left' rfl]

/-- It does not matter in which order bytes are put in two places. -/
theorem put_comm (h : position + x.length ≤ position') (h' : position' + y.length ≤ b.length) :
  put position x (put position' y b) = put position' y (put position x b)
  := by
  have hx : position + x.length ≤ b.length := by omega
  apply List.ext_getElem?
  intro i
  rw [getElem?_put (by rwa [length_put h']), getElem?_put h', getElem?_put (by rwa [length_put hx]),
    getElem?_put hx]
  split
  · rw [if_neg (by omega)]
  · rfl

end Bytes

/-! ### Storages with edited files -/

/-- An edit as an action, which leaves everything as it is if it fails. -/
def Files.perform {σ : Type} [Files σ] (path : Path) (edit : FileEdit) : Action σ IoKind Unit :=
  fun s =>
    match Files.edit path edit s with
    | .ok s' => (.ok (), s')
    | .error k => (.error k, s)

/-- Views that edits of files are true to. -/
structure Storage.Editing {σ τ : Type} [Storage σ τ] [Files σ] (V : Storage.View σ τ) where
  /-- The file at a path is in its place, where it can be edited. -/
  Editable : Path → σ → Prop
  edit_eq_error : ∀ {path : Path} {edit : FileEdit} {s : σ} {c : Bytes} {k : IoKind},
    V.file? path s = some c → edit c.length = .error k → Files.edit path edit s = .error k
  edit_eq_ok : ∀ {path : Path} {edit : FileEdit} {s : σ} {c : Bytes} {change : FileChange},
    V.file? path s = some c → Editable path s → edit c.length = .ok change →
    ∃ s', Files.edit path edit s = .ok s' ∧ V.file? path s' = some (change.apply c)
      ∧ Editable path s' ∧ (V.Sound s → (change.apply c).length < Buffer.limit → V.Sound s')

namespace Storage.Editing

variable {σ τ : Type} [Storage σ τ] [Files σ] {V : View σ τ} {E : Editing V} {path : Path}
  {edit : FileEdit} {c : Bytes} {s : σ}

/-- The file at a path has the contents and is in its place, and no call fails. -/
structure Stored (E : Editing V) (path : Path) (c : Bytes) (s : σ) : Prop where
  sound : V.Sound s
  file_eq : V.file? path s = some c
  editable : E.Editable path s

theorem Stored.perform_of_error {k : IoKind} (h : E.Stored path c s)
    (he : edit c.length = .error k) :
  Files.perform path edit s = (.error k, s)
  := by rw [Files.perform, E.edit_eq_error h.file_eq he]

theorem Stored.perform_of_ok {change : FileChange} (h : E.Stored path c s)
    (he : edit c.length = .ok change) (hl : (change.apply c).length < Buffer.limit) :
  ∃ s', Files.perform path edit s = (.ok (), s') ∧ E.Stored path (change.apply c) s'
  := by
  obtain ⟨s', hs, hf, hp, hk⟩ := E.edit_eq_ok h.file_eq h.editable he
  use s'
  rw [Files.perform, hs]
  exact ⟨rfl, hk h.sound hl, hf, hp⟩

end Storage.Editing

namespace Disk

/-- The disk with other contents of a file. -/
def withContents (number : Nat) (b : SparseBytes) (d : Disk) : Disk :=
  { d with files := d.files.set number b }

variable {path : Path} {edit : FileEdit} {number : Nat} {b : SparseBytes} {d : Disk}

theorem edit_of_lookup (hl : d.lookup path = .ok (.file number)) :
  Files.edit path edit d
    = (edit (d.contentsOf number).length).map fun change =>
      d.withContents number ((d.contentsOf number).apply change)
  := by
  rw [show Files.edit path edit d = d.edit path edit from rfl, Disk.edit, hl]
  cases h : edit (d.contentsOf number).length with
  | error k =>
    simp only [bind, Except.bind, h]
    rfl
  | ok change =>
    simp only [bind, Except.bind, h]
    rfl

theorem contentsOf_withContents (h : number < d.files.length) (n : Nat) :
  (d.withContents number b).contentsOf n = if n = number then b else d.contentsOf n
  := by
  rw [contentsOf, withContents, contentsOf, List.getD_eq_getElem?_getD, List.getElem?_set]
  split
  · rename_i hn
    rw [if_pos hn.symm]
    rfl
  · rename_i hn
    rw [if_neg (Ne.symm hn), List.getD_eq_getElem?_getD]

/-- Files on a disk can be edited if their names lead to them. -/
def editing : Storage.Editing view where
  Editable path d := ∃ number, d.lookup path = .ok (.file number) ∧ number < d.files.length
  edit_eq_error := by
    intro path edit d c k hf he
    obtain ⟨number, hl, rfl⟩ := file?_eq_some_iff.mp hf
    rw [SparseBytes.length_toBytes] at he
    rw [edit_of_lookup hl, he]
    rfl
  edit_eq_ok := by
    intro path edit d c change hf hp he
    obtain ⟨number, hl, hn⟩ := hp
    obtain ⟨number', hl', rfl⟩ := file?_eq_some_iff.mp hf
    rw [hl] at hl'
    cases hl'
    rw [SparseBytes.length_toBytes] at he
    have hc := contentsOf_withContents (b := (d.contentsOf number).apply change) hn
    use d.withContents number ((d.contentsOf number).apply change)
    rw [edit_of_lookup hl, he]
    use rfl
    constructor
    · apply file?_eq_some_iff.mpr
      use number, hl
      rw [hc, if_pos rfl, SparseBytes.toBytes_apply]
    use ⟨number, hl, by rwa [withContents, List.length_set]⟩
    intro hs hlt n
    rw [hc]
    split
    · rwa [← SparseBytes.length_toBytes, SparseBytes.toBytes_apply]
    · apply hs

end Disk

end BatchFile
