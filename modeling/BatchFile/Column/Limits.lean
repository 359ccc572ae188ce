import BatchFile.Column.Basic
import BatchFile.Panic
import BatchFile.Text.Utf8

/-!
# Limits of columns

The slots of a column lie in buffers, and a column of values of variable length has the offsets of
the values in a buffer of bytes.  Which slots are too many for one column is up to their type
(`ColumnLimits`).
-/

namespace BatchFile

/-- What is too large where slots are too many for one column. -/
inductive Excess where
  /-- An offset is more than a number of its width. -/
  | offset
  /-- A buffer has more bytes than any buffer can have. -/
  | buffer
deriving DecidableEq, Repr

/-- What the types of columns can hold. -/
class ColumnLimits where
  /-- What would be too large in a column of the given type with the given slots. -/
  excess? : DataType → List Slot → Option Excess

namespace Column

/-- The slots of a column; the null type needs none. -/
def slotList : Column → List Slot
  | nulls _ => []
  | slots _ ss _ => ss

/-- What would be too large in a column. -/
def excess? [ColumnLimits] (c : Column) : Option Excess :=
  ColumnLimits.excess? c.type c.slotList

theorem length_slotList_le (c : Column) :
  c.slotList.length ≤ c.length
  := by
  cases c with
  | nulls n => exact Nat.zero_le n
  | slots t ss h => exact Nat.le_refl ss.length

end Column

/-! ### The types that have a name -/

/-- The number of bytes that a value of variable length has. -/
def Value.byteLength : Value → Nat
  | .text s => (Utf8.encode s).length
  | .binary b => b.length
  | _ => 0

namespace DataType

/-- The number of bytes of the offsets of a type of values of variable length. -/
def offsetWidth? : DataType → Option Nat
  | .utf8 => some 4
  | .largeUtf8 => some 8
  | .binary => some 4
  | _ => none

/-- The number of bytes of the values of a type of fixed width; a truth value is less than one. -/
def valueWidth : DataType → Nat
  | .integer _ width => width.bytes
  | .float32 => 4
  | .float64 => 8
  | _ => 0

theorem eq_of_offsetWidth {t : DataType} {width : Nat} (h : t.offsetWidth? = some width) :
  width = 4 ∨ width = 8
  := by
  cases t <;> simp only [offsetWidth?, Option.some.injEq, reduceCtorEq] at h <;> omega

theorem valueWidth_le (t : DataType) :
  t.valueWidth ≤ 8
  := by
  cases t with
  | integer signed width => cases width <;> simp [valueWidth, Width.bytes]
  | _ => simp [valueWidth]

end DataType

/-- The number of bytes of the stored values of slots. -/
def Slot.totalBytes : List Slot → Nat
  | [] => 0
  | slot :: slots => slot.stored.byteLength + totalBytes slots

/-- What would be too large in a column of a type that has a name: every buffer has its limit, and
an offset is a signed number. -/
def flatExcess? (type : DataType) (slots : List Slot) : Option Excess :=
  match type.offsetWidth? with
  | some width =>
    let bytes := Slot.totalBytes slots
    if Buffer.limit ≤ (slots.length + 1) * width ∨ Buffer.limit ≤ bytes then some .buffer
    else if Bytes.count width / 2 ≤ bytes then some .offset
    else none
  | none => if Buffer.limit ≤ slots.length * type.valueWidth then some .buffer else none

/-- The limits of the types that have a name; no other type has one. -/
instance flatLimits : ColumnLimits := ⟨flatExcess?⟩

/-- Slots are not too many for one column if there is room for a word for each of them, and for one
more, and their bytes can be counted by an offset of the type. -/
theorem flatExcess?_of_lt {type : DataType} {slots : List Slot}
    (hn : (slots.length + 1) * 8 < Buffer.limit)
    (hb : ∀ width, type.offsetWidth? = some width →
      Slot.totalBytes slots < Bytes.count width / 2) :
  flatExcess? type slots = none
  := by
  have hl : Buffer.limit = 2 ^ 63 := rfl
  have h4 : Bytes.count 4 = 2 ^ 32 := rfl
  have h8 : Bytes.count 8 = 2 ^ 64 := rfl
  rw [flatExcess?]
  split
  case h_1 width hw =>
    have hb := hb width hw
    rcases DataType.eq_of_offsetWidth hw with rfl | rfl
    all_goals
      dsimp only
      rw [if_neg (by omega), if_neg (by omega)]
  case h_2 =>
    have hv := Nat.mul_le_mul_left slots.length type.valueWidth_le
    rw [if_neg (by omega)]

/-- Bytes that no offset of the type counts are too many. -/
theorem flatExcess?_ne_none {type : DataType} {slots : List Slot} {width : Nat}
    (hw : type.offsetWidth? = some width)
    (hb : Bytes.count width / 2 ≤ Slot.totalBytes slots) :
  flatExcess? type slots ≠ none
  := by
  rw [flatExcess?, hw]
  dsimp only
  rw [if_pos hb]
  split <;> exact Option.some_ne_none _

end BatchFile
