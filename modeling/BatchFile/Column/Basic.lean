import BatchFile.Bytes
import BatchFile.Column.Schema

/-!
# Columns

A column holds values of one type, one in each slot.  A slot may be null, and has a stored
value even then, which only a look at the stored values can see.  In a column of the null
type every slot stores the null value, so that only their number matters.
-/

namespace BatchFile

/-- A value in a table. -/
inductive Value where
  | null
  | boolean (b : Bool)
  | integer (n : Int)
  /-- A floating-point number, by its bits. -/
  | float (bits : Nat)
  | text (s : String)
  | binary (b : Bytes)
  /-- A value of any other type, by an encoding of it. -/
  | other (encoding : Bytes)
deriving DecidableEq, Repr

/-- A slot of a column. -/
structure Slot where
  /-- Whether the slot is not null. -/
  valid : Bool
  /-- The stored value, which a null slot has too. -/
  stored : Value
deriving DecidableEq, Repr

/-- The value of a slot: null for a null slot. -/
def Slot.value (s : Slot) : Value :=
  if s.valid then s.stored else .null

/-- A column. -/
inductive Column where
  /-- The column of the null type with the given number of slots. -/
  | nulls (length : Nat)
  /-- A column of another type. -/
  | slots (type : DataType) (slots : List Slot) (type_ne_null : type ≠ .null)
deriving DecidableEq, Repr

/-- The value that is stored in a null slot of a column built from values. -/
def DataType.blank : DataType → Value
  | .null => .null
  | .boolean => .boolean false
  | .integer _ _ => .integer 0
  | .float32 => .float 0
  | .float64 => .float 0
  | .utf8 => .text ""
  | .largeUtf8 => .text ""
  | .binary => .binary []
  | .other _ => .other []

namespace Column

/-- The type of the values. -/
def type : Column → DataType
  | nulls _ => .null
  | slots t _ _ => t

/-- The number of slots. -/
def length : Column → Nat
  | nulls n => n
  | slots _ ss _ => ss.length

/-- The number of null slots; the null type has none. -/
def nullCount : Column → Nat
  | nulls _ => 0
  | slots _ ss _ => ss.countP fun s => !s.valid

/-- For each slot, whether it is not null. -/
def validity : Column → List Bool
  | nulls n => List.replicate n true
  | slots _ ss _ => ss.map Slot.valid

/-- The values of the slots. -/
def values : Column → List Value
  | nulls n => List.replicate n .null
  | slots _ ss _ => ss.map Slot.value

/-- The stored values of the slots. -/
def storedValues : Column → List Value
  | nulls n => List.replicate n .null
  | slots _ ss _ => ss.map Slot.stored

/-- The value in slot `i`, null if there is no such slot. -/
def valueAt (c : Column) (i : Nat) : Value :=
  match c with
  | nulls _ => .null
  | slots _ ss _ => (ss[i]?.map Slot.value).getD .null

/-- The column of the given type with the given values. -/
def ofValues (t : DataType) (values : List Value) : Column :=
  if h : t = .null then nulls values.length
  else slots t (values.map fun v => if v = .null then ⟨false, t.blank⟩ else ⟨true, v⟩) h

/-- The slots from `start` on, `count` of them as far as there are as many. -/
def slice (c : Column) (start count : Nat) : Column :=
  match c with
  | nulls n => nulls (min count (n - start))
  | slots t ss h => slots t ((ss.drop start).take count) h

/-- The slots of both columns, if they are of one type. -/
def append? : Column → Column → Option Column
  | nulls m, nulls n => some (nulls (m + n))
  | slots t ss h, slots u us _ => if t = u then some (slots t (ss ++ us) h) else none
  | _, _ => none

theorem length_values (c : Column) :
  c.values.length = c.length
  := by
  cases c <;> simp [values, length]

theorem getD_values (c : Column) (i : Nat) :
  c.values.getD i .null = c.valueAt i
  := by
  cases c with
  | nulls n =>
    simp only [values, valueAt, List.getD_eq_getElem?_getD, List.getElem?_replicate]
    split <;> rfl
  | slots t ss h => simp [values, valueAt, List.getD_eq_getElem?_getD]

@[simp]
theorem type_ofValues (t : DataType) (values : List Value) :
  (ofValues t values).type = t
  := by
  unfold ofValues
  split
  case isTrue h => exact h.symm
  case isFalse => rfl

@[simp]
theorem length_ofValues (t : DataType) (values : List Value) :
  (ofValues t values).length = values.length
  := by
  unfold ofValues
  split <;> simp [length]

@[simp]
theorem nullCount_ofValues_nil (t : DataType) :
  (ofValues t []).nullCount = 0
  := by
  unfold ofValues
  split <;> rfl

@[simp]
theorem type_slice (c : Column) (start count : Nat) :
  (c.slice start count).type = c.type
  := by
  cases c <;> rfl

@[simp]
theorem length_slice (c : Column) (start count : Nat) :
  (c.slice start count).length = min count (c.length - start)
  := by
  cases c <;> simp [slice, length]

theorem nullCount_slice_le (c : Column) (start count : Nat) :
  (c.slice start count).nullCount ≤ c.nullCount
  := by
  cases c with
  | nulls n => exact Nat.le_refl 0
  | slots t ss h =>
    exact List.Sublist.countP_le
      ((List.take_sublist count (ss.drop start)).trans (List.drop_sublist start ss))

theorem isSome_append? (a b : Column) :
  (a.append? b).isSome = true ↔ a.type = b.type
  := by
  cases a with
  | nulls m =>
    cases b with
    | nulls n => simp [append?, type]
    | slots u us h => simpa [append?, type] using fun e => h e.symm
  | slots t ss h =>
    cases b with
    | nulls n => simpa [append?, type] using h
    | slots u us h' => by_cases e : t = u <;> simp [append?, type, e]

theorem values_of_append? {a b c : Column} (h : a.append? b = some c) :
  c.values = a.values ++ b.values
  := by
  cases a with
  | nulls m =>
    cases b with
    | nulls n =>
      simp only [append?, Option.some.injEq] at h
      simp [← h, values, List.replicate_append_replicate]
    | slots u us hu => simp [append?] at h
  | slots t ss ht =>
    cases b with
    | nulls n => simp [append?] at h
    | slots u us hu =>
      by_cases e : t = u
      · simp only [append?, e, if_true, Option.some.injEq] at h
        simp [← h, values]
      · simp [append?, e] at h

end Column

end BatchFile
