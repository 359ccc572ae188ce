import BatchFile.Proofs.Action
import Mathlib.Data.List.Forall2

/-!
# Related lists

Lists of one length whose elements are related one by one.  The results of going through a list
are related to it in this way, if nothing fails.
-/

namespace BatchFile

variable {α β : Type} {R : α → β → Prop} {xs : List α} {ys : List β}

theorem exists_forall₂ (h : ∀ x ∈ xs, ∃ y, R x y) :
  ∃ ys, List.Forall₂ R xs ys
  := by
  induction xs with
  | nil => exact ⟨[], .nil⟩
  | cons x xs ih =>
    obtain ⟨y, hy⟩ := h x List.mem_cons_self
    obtain ⟨ys, hys⟩ := ih fun z hz => h z (List.mem_cons_of_mem x hz)
    exact ⟨y :: ys, .cons hy hys⟩

theorem exists_of_mem_right (h : List.Forall₂ R xs ys) {y : β} (hy : y ∈ ys) :
  ∃ x ∈ xs, R x y
  := by
  obtain ⟨i, hi, rfl⟩ := List.mem_iff_getElem.mp hy
  have hx : i < xs.length := by rwa [h.length_eq]
  exact ⟨_, xs.getElem_mem hx, h.get hx hi⟩

theorem exists_of_mem_left (h : List.Forall₂ R xs ys) {x : α} (hx : x ∈ xs) :
  ∃ y ∈ ys, R x y
  := exists_of_mem_right h.flip hx

/-- The results of going through a list are those of its elements. -/
theorem forall₂_of_mapM {ε : Type} {f : α → Except ε β} (h : xs.mapM f = .ok ys) :
  List.Forall₂ (fun x y => f x = .ok y) xs ys
  := by
  have hs := mapM_eq_ok_iff.mp h
  rw [← List.forall₂_eq_eq_eq, List.forall₂_map_left_iff, List.forall₂_map_right_iff] at hs
  apply hs.imp
  intro x y hx
  cases hf : f x with
  | error e =>
    rw [hf] at hx
    cases hx
  | ok z =>
    rw [hf] at hx
    rw [Option.some.inj hx]

end BatchFile
