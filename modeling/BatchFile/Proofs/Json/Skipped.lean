import BatchFile.Json.Skip
import BatchFile.Proofs.Json.Grammar
import Mathlib.Data.List.DropRight
import Mathlib.Tactic.Use

/-!
# Passing over what is well formed

Whatever the grammar derives is passed over without anything behind it being touched: white space,
numbers, strings, and values that are nested to any depth (`Json.skipValue_append`).  For a
number the text behind it matters, as it must not go on with the number (`Json.Ends`).
-/

namespace BatchFile

namespace Json

/-! ### White space -/

section Space

variable {w w' s rest : Bytes} {b : UInt8}

theorem spaces_nil :
  Spaces []
  := nofun

theorem skipSpace_append (hw : Spaces w) (s : Bytes) :
  skipSpace (w ++ s) = skipSpace s
  := List.dropWhile_append_of_pos hw

theorem skipSpace_cons (hb : isSpace b = false) (s : Bytes) :
  skipSpace (b :: s) = b :: s
  := List.dropWhile_cons_of_neg (by simp [hb])

/-- White space before something else is passed over. -/
theorem skipSpace_append_cons (hw : Spaces w) (hb : isSpace b = false) (s : Bytes) :
  skipSpace (w ++ b :: s) = b :: s
  := (skipSpace_append hw _).trans (skipSpace_cons hb s)

theorem skipSpace_eq_nil_iff :
  skipSpace s = [] ↔ Spaces s
  := List.dropWhile_eq_nil_iff

theorem skipSpace_skipSpace (s : Bytes) :
  skipSpace (skipSpace s) = skipSpace s
  := List.dropWhile_idempotent isSpace s

theorem skipWord_append (w rest : Bytes) :
  skipWord w (w ++ rest) = .ok rest
  := by
  induction w with
  | nil => rfl
  | cons b w ih => rw [List.cons_append, skipWord, if_pos rfl, ih]

end Space

/-! ### Numbers -/

/-- Whether a number could go on with a byte. -/
def continuesNumber (b : UInt8) : Bool :=
  isDigit b || b = point || isExponentMark b

/-- A text behind a number, with which the number does not go on. -/
def Ends (rest : Bytes) : Prop :=
  ∀ b ∈ rest.head?, continuesNumber b = false

section Number

variable {w ds integer fraction exponent n rest : Bytes} {b : UInt8}

theorem ends_nil :
  Ends []
  := by
  intro b hb
  cases hb

theorem ends_cons (hb : continuesNumber b = false) (rest : Bytes) :
  Ends (b :: rest)
  := by
  intro c hc
  cases hc
  exact hb

theorem ends_append (hw : Spaces w) (h : Ends rest) :
  Ends (w ++ rest)
  := by
  cases w with
  | nil => exact h
  | cons b w =>
    apply ends_cons
    have hb := hw b List.mem_cons_self
    simp only [isSpace, Bool.or_eq_true, decide_eq_true_eq] at hb
    obtain ((rfl | rfl) | rfl) | rfl := hb <;> decide

theorem Ends.head (h : Ends (b :: rest)) :
  isDigit b = false ∧ b ≠ point ∧ isExponentMark b = false
  := by
  have hb := h b rfl
  simp only [continuesNumber, Bool.or_eq_false_iff, decide_eq_false_iff_not] at hb
  exact ⟨hb.1.1, hb.1.2, hb.2⟩

theorem Ends.startsWithDigit (h : Ends rest) :
  startsWithDigit rest = false
  := by
  cases rest with
  | nil => rfl
  | cons b rest => exact h.head.1

theorem skipDigits_append (hds : ∀ b ∈ ds, isDigit b = true)
    (hr : startsWithDigit rest = false) :
  skipDigits (ds ++ rest) = rest
  := by
  rw [skipDigits, List.dropWhile_append_of_pos hds]
  cases rest with
  | nil => rfl
  | cons b rest => exact List.dropWhile_cons_of_neg (by simpa [startsWithDigit] using hr)

theorem skipSomeDigits_append (h : Digits ds) (hr : startsWithDigit rest = false) :
  skipSomeDigits (ds ++ rest) = .ok rest
  := by
  obtain ⟨hne, hds⟩ := h
  cases ds with
  | nil => exact (hne rfl).elim
  | cons b ds =>
    rw [List.cons_append, skipSomeDigits, if_pos (hds b List.mem_cons_self),
      skipDigits_append (fun c hc => hds c (List.mem_cons_of_mem b hc)) hr]

theorem isDigit_of_isExponentMark (hb : isExponentMark b = true) :
  isDigit b = false ∧ b ≠ point
  := by
  simp only [isExponentMark, Bool.or_eq_true, decide_eq_true_eq] at hb
  obtain rfl | rfl := hb <;> decide

/-- Neither a fraction nor an exponent starts with a digit. -/
theorem startsWithDigit_fraction (hf : FractionText fraction) (he : ExponentText exponent)
    (hr : Ends rest) :
  startsWithDigit (fraction ++ (exponent ++ rest)) = false
  := by
  cases hf with
  | digits h => rfl
  | none =>
    cases he with
    | none => exact hr.startsWithDigit
    | unsigned hm _ => exact (isDigit_of_isExponentMark hm).1
    | signed hm _ _ => exact (isDigit_of_isExponentMark hm).1

theorem skipSign_append (h : Digits ds) (rest : Bytes) :
  skipSign (ds ++ rest) = ds ++ rest
  := by
  obtain ⟨hne, hds⟩ := h
  cases ds with
  | nil => exact (hne rfl).elim
  | cons b ds =>
    have hb := hds b List.mem_cons_self
    rw [List.cons_append, skipSign, if_neg]
    rintro h
    simp only [Bool.or_eq_true, decide_eq_true_eq] at h
    obtain rfl | rfl := h <;> exact absurd hb (by decide)

theorem skipExponent_append (he : ExponentText exponent) (hr : Ends rest) :
  skipExponent (exponent ++ rest) = .ok rest
  := by
  cases he with
  | none =>
    cases rest with
    | nil => rfl
    | cons b rest => rw [List.nil_append, skipExponent, if_neg (by simp [hr.head.2.2])]
  | unsigned hm h =>
    rw [List.cons_append, skipExponent, if_pos hm, skipSign_append h,
      skipSomeDigits_append h hr.startsWithDigit]
  | signed hm hs h =>
    rw [List.cons_append, List.cons_append, skipExponent, if_pos hm, skipSign,
      if_pos (by simpa using hs), skipSomeDigits_append h hr.startsWithDigit]

/-- Without a point there is no fraction. -/
theorem skipFraction_of_head (h : ∀ b ∈ rest.head?, b ≠ point) :
  skipFraction rest = skipExponent rest
  := by
  cases rest with
  | nil => rfl
  | cons b rest => rw [skipFraction, if_neg (h b rfl)]

theorem skipFraction_append (hf : FractionText fraction) (he : ExponentText exponent)
    (hr : Ends rest) :
  skipFraction (fraction ++ (exponent ++ rest)) = .ok rest
  := by
  cases hf with
  | digits h =>
    have hd : startsWithDigit (exponent ++ rest) = false := startsWithDigit_fraction .none he hr
    rw [List.cons_append, skipFraction, if_pos rfl, skipSomeDigits_append h hd]
    exact skipExponent_append he hr
  | none =>
    rw [List.nil_append, skipFraction_of_head, skipExponent_append he hr]
    intro b hb
    cases he with
    | none =>
      cases rest with
      | nil => cases hb
      | cons c rest =>
        cases hb
        exact hr.head.2.1
    | unsigned hm _ =>
      cases hb
      exact (isDigit_of_isExponentMark hm).2
    | signed hm _ _ =>
      cases hb
      exact (isDigit_of_isExponentMark hm).2

theorem skipNumber_append (hn : UnsignedText n) (hr : Ends rest) :
  skipNumber (n ++ rest) = .ok rest
  := by
  obtain ⟨hi, hf, he⟩ := hn
  have hd := startsWithDigit_fraction hf he hr
  rw [List.append_assoc, List.append_assoc]
  cases hi with
  | zero =>
    rw [List.cons_append, List.nil_append, skipNumber, if_pos rfl, hd]
    exact skipFraction_append hf he hr
  | @digits b ds hb h =>
    obtain ⟨-, hds⟩ := h
    rw [List.cons_append, skipNumber, if_neg hb, if_pos (hds b List.mem_cons_self),
      skipDigits_append (fun c hc => hds c (List.mem_cons_of_mem b hc)) hd]
    exact skipFraction_append hf he hr

end Number

/-! ### Strings -/

section String

variable {cs contents w w₁ rest : Bytes}

theorem backslash_ne_quote :
  backslash ≠ quote
  := by decide

theorem skipString_append (h : Characters cs) (rest : Bytes) :
  skipString (cs ++ quote :: rest) = .ok rest
  := by
  induction h with
  | nil =>
    rw [List.nil_append, skipString.eq_def]
    exact if_pos rfl
  | plain hq hb hc _ ih =>
    rw [List.cons_append, skipString.eq_def]
    simp only [if_neg hq, if_neg hb, if_neg hc, ih]
  | @short e cs he _ ih =>
    have hu : e ≠ letterU := by
      rintro rfl
      exact absurd he (by decide)
    rw [List.cons_append, List.cons_append, skipString.eq_def]
    simp only [if_neg backslash_ne_quote, if_true, if_neg hu, if_pos he, ih]
  | numbered hn _ ih =>
    rw [List.cons_append, List.cons_append, skipString.eq_def]
    simp only [if_neg backslash_ne_quote, if_true, List.cons_append, if_pos hn, ih]

theorem skipKey_append (hw : Spaces w) (hc : Characters cs) (hw₁ : Spaces w₁) (rest : Bytes) :
  skipKey (w ++ quote :: (cs ++ quote :: (w₁ ++ colon :: rest))) = .ok rest
  := by
  have h₁ := skipSpace_append_cons hw (b := quote) rfl (cs ++ quote :: (w₁ ++ colon :: rest))
  have h₂ := skipString_append hc (w₁ ++ colon :: rest)
  have h₃ := skipSpace_append_cons hw₁ (b := colon) rfl rest
  simp only [skipKey, h₁, h₂, h₃, if_true]

/-- White space before a key makes no difference. -/
theorem skipKey_of_skipSpace {s : Bytes} {b : UInt8} (h : skipSpace rest = b :: s) :
  skipKey (b :: s) = skipKey rest
  := by
  rw [skipKey, skipKey, ← h, skipSpace_skipSpace]

end String

/-! ### Values -/

section Value

variable {w v t rest : Bytes} {b : UInt8} {bs outer : List Bracket}

/-- Whether a value can start with a byte. -/
def startsValue (b : UInt8) : Bool :=
  b = quote || b = openList || b = openObject || b = minus || isDigit b
    || b = 0x6E || b = 0x74 || b = 0x66

/-- A text that starts as a value does. -/
def Starts (v : Bytes) : Prop :=
  ∃ b s, v = b :: s ∧ startsValue b = true

theorem startsValue_ne (hb : startsValue b = true) :
  isSpace b = false ∧ b ≠ closeList ∧ b ≠ closeObject
  := by
  refine ⟨?_, ?_, ?_⟩
  · cases h : isSpace b with
    | false => rfl
    | true =>
      simp only [isSpace, Bool.or_eq_true, decide_eq_true_eq] at h
      obtain ((rfl | rfl) | rfl) | rfl := h <;> exact absurd hb (by decide)
  · rintro rfl
    exact absurd hb (by decide)
  · rintro rfl
    exact absurd hb (by decide)

theorem UnsignedText.starts {n : Bytes} (h : UnsignedText n) :
  ∃ b s, n = b :: s ∧ isDigit b = true
  := by
  obtain ⟨hi, _, _⟩ := h
  cases hi with
  | zero => exact ⟨_, _, rfl, rfl⟩
  | @digits b ds _ h => exact ⟨b, _, rfl, h.isDigit_of_mem b List.mem_cons_self⟩

theorem WellFormed.starts (h : WellFormed v) :
  Starts v
  := by
  cases h with
  | null => exact ⟨_, _, rfl, rfl⟩
  | yes => exact ⟨_, _, rfl, rfl⟩
  | no => exact ⟨_, _, rfl, rfl⟩
  | number h =>
    obtain ⟨b, s, rfl, hb⟩ := h.starts
    exact ⟨b, s, rfl, by simp [startsValue, hb]⟩
  | negative h => exact ⟨_, _, rfl, rfl⟩
  | string h => exact ⟨_, _, rfl, rfl⟩
  | emptyList hw => exact ⟨_, _, rfl, rfl⟩
  | list h => exact ⟨_, _, rfl, rfl⟩
  | emptyObject hw => exact ⟨_, _, rfl, rfl⟩
  | object h => exact ⟨_, _, rfl, rfl⟩

theorem skipSpace_starts (hw : Spaces w) (h : Starts v) (rest : Bytes) :
  ∃ b s, skipSpace (w ++ (v ++ rest)) = b :: s ∧ b ≠ closeList
  := by
  obtain ⟨b, s, rfl, hb⟩ := h
  obtain ⟨hs, hl, -⟩ := startsValue_ne hb
  exact ⟨b, s ++ rest, skipSpace_append_cons hw hs _, hl⟩

/-- Elements do not start with the end of their list. -/
theorem skipSpace_elements (h : Derives .elements t) (rest : Bytes) :
  ∃ b s, skipSpace (t ++ rest) = b :: s ∧ b ≠ closeList
  := by
  cases h with
  | element hw hv hw' =>
    rw [List.append_assoc, List.append_assoc]
    exact skipSpace_starts hw (WellFormed.starts hv) _
  | elements hw hv hw' _ =>
    rw [List.append_assoc, List.append_assoc]
    exact skipSpace_starts hw (WellFormed.starts hv) _

/-- Members start with the quotation mark of a key. -/
theorem skipSpace_members (h : Derives .members t) (rest : Bytes) :
  ∃ s, skipSpace (t ++ rest) = quote :: s
  := by
  cases h with
  | member hw _ _ _ _ _ =>
    rw [List.append_assoc]
    exact ⟨_, skipSpace_append_cons hw rfl _⟩
  | members hw _ _ _ _ _ _ =>
    rw [List.append_assoc]
    exact ⟨_, skipSpace_append_cons hw rfl _⟩

/-! ### From place to place -/

theorem skipFrom_of_next {p q : Position} (h : p.next = .ok (some q)) :
  skipFrom p = skipFrom q
  := by
  rw [skipFrom]
  split <;> simp_all

theorem next_beforeValue (bs : List Bracket) {s : Bytes} (h : skipSpace rest = b :: s) :
  Position.next ⟨.beforeValue, bs, rest⟩ = some <$> nextInValue bs b s
  := by
  cases bs <;> simp [Position.next, h]

theorem next_opened {s : Bytes} {bracket : Bracket} (h : skipSpace rest = b :: s) :
  Position.next ⟨.opened, bracket :: outer, rest⟩ = some <$> nextInOpened outer bracket b s
  := by simp [Position.next, h]

theorem next_inList {s : Bytes} (h : skipSpace rest = b :: s) :
  Position.next ⟨.afterValue, .list :: outer, rest⟩ = some <$> nextInList outer b s
  := by simp [Position.next, h]

theorem next_inObject {s : Bytes} (h : skipSpace rest = b :: s) :
  Position.next ⟨.afterValue, .object :: outer, rest⟩ = some <$> nextInObject outer b s
  := by simp [Position.next, h]

/-- White space before a value makes no difference. -/
theorem skipFrom_skipSpace {s : Bytes} (h : skipSpace rest = b :: s) :
  skipFrom ⟨.beforeValue, bs, b :: s⟩ = skipFrom ⟨.beforeValue, bs, rest⟩
  := by
  have hs : skipSpace (b :: s) = b :: s := by rw [← h, skipSpace_skipSpace]
  have hn := next_beforeValue bs h
  have hn' := next_beforeValue bs hs
  rw [skipFrom, skipFrom]
  cases hv : nextInValue bs b s with
  | error e =>
    rw [hv] at hn hn'
    split <;> split <;> simp_all [Functor.map, Except.map]
  | ok q =>
    rw [hv] at hn hn'
    split <;> split <;> simp_all [Functor.map, Except.map]

theorem skipFrom_scalar {s : Bytes} (hw : Spaces w) (hb : isSpace b = false) (hl : b ≠ openList)
    (ho : b ≠ openObject) (h : skipScalar b s = .ok rest) :
  skipFrom ⟨.beforeValue, bs, w ++ b :: s⟩ = skipFrom ⟨.afterValue, bs, rest⟩
  := by
  apply skipFrom_of_next
  rw [next_beforeValue _ (skipSpace_append_cons hw hb s), nextInValue, if_neg hl, if_neg ho, h]
  rfl

theorem ne_of_isDigit {c : UInt8} (hb : isDigit b = true) (hc : isDigit c = false) :
  b ≠ c
  := by
  rintro rfl
  rw [hb] at hc
  cases hc

theorem skipScalar_of_isDigit (hb : isDigit b = true) (s : Bytes) :
  skipScalar b s = skipNumber (b :: s)
  := by
  rw [skipScalar, if_neg (ne_of_isDigit hb rfl), if_neg (ne_of_isDigit hb rfl),
    if_neg (ne_of_isDigit hb rfl), if_neg (ne_of_isDigit hb rfl), if_neg (ne_of_isDigit hb rfl),
    if_pos hb]

/-- What it means to pass over a part of a text, whatever is around it. -/
def Part.Passed : Part → Bytes → Prop
  | .value, t => ∀ (bs : List Bracket) (w rest : Bytes), Spaces w → Ends rest →
    skipFrom ⟨.beforeValue, bs, w ++ (t ++ rest)⟩ = skipFrom ⟨.afterValue, bs, rest⟩
  | .elements, t => ∀ (outer : List Bracket) (rest : Bytes),
    skipFrom ⟨.beforeValue, .list :: outer, t ++ closeList :: rest⟩
      = skipFrom ⟨.afterValue, outer, rest⟩
  | .members, t => ∀ (outer : List Bracket) (rest : Bytes), ∃ s,
    skipKey (t ++ closeObject :: rest) = .ok s
    ∧ skipFrom ⟨.beforeValue, .object :: outer, s⟩ = skipFrom ⟨.afterValue, outer, rest⟩

/-- Every part that the grammar derives is passed over. -/
theorem passed_of_derives {part : Part} (h : Derives part t) :
  part.Passed t
  := by
  induction h with
  | null =>
    intro bs w rest hw hr
    exact skipFrom_scalar hw rfl (by decide) (by decide) (skipWord_append (Bytes.ascii "ull") rest)
  | yes =>
    intro bs w rest hw hr
    exact skipFrom_scalar hw rfl (by decide) (by decide) (skipWord_append (Bytes.ascii "rue") rest)
  | no =>
    intro bs w rest hw hr
    exact skipFrom_scalar hw rfl (by decide) (by decide) (skipWord_append (Bytes.ascii "alse") rest)
  | number h =>
    intro bs w rest hw hr
    obtain ⟨b, s, rfl, hb⟩ := h.starts
    have hs := skipNumber_append h hr
    rw [List.cons_append, ← skipScalar_of_isDigit hb] at hs
    have hsp : isSpace b = false := (startsValue_ne (by simp [startsValue, hb])).1
    exact skipFrom_scalar hw hsp (ne_of_isDigit hb rfl) (ne_of_isDigit hb rfl) hs
  | negative h =>
    intro bs w rest hw hr
    exact skipFrom_scalar hw rfl (by decide) (by decide) (skipNumber_append h hr)
  | @string cs h =>
    intro bs w rest hw hr
    rw [List.cons_append, List.append_assoc]
    exact skipFrom_scalar hw rfl (by decide) (by decide) (skipString_append h rest)
  | @emptyList w' hw' =>
    intro bs w rest hw hr
    rw [List.cons_append, List.append_assoc]
    trans
    · exact skipFrom_of_next (next_beforeValue _ (skipSpace_append_cons hw rfl _))
    · exact skipFrom_of_next (next_opened (skipSpace_append_cons hw' rfl _))
  | list h ih =>
    intro bs w rest hw hr
    simp only [List.cons_append, List.append_assoc, List.nil_append]
    rw [← ih bs rest]
    obtain ⟨b, s, hs, hb⟩ := skipSpace_elements h (closeList :: rest)
    trans
    · exact skipFrom_of_next (next_beforeValue _ (skipSpace_append_cons hw rfl _))
    · trans
      · apply skipFrom_of_next
        rw [next_opened hs, nextInOpened, if_neg hb]
        rfl
      · exact skipFrom_skipSpace hs
  | emptyObject hw' =>
    intro bs w rest hw hr
    rw [List.cons_append, List.append_assoc]
    trans
    · exact skipFrom_of_next (next_beforeValue _ (skipSpace_append_cons hw rfl _))
    · exact skipFrom_of_next (next_opened (skipSpace_append_cons hw' rfl _))
  | object h ih =>
    intro bs w rest hw hr
    simp only [List.cons_append, List.append_assoc, List.nil_append]
    obtain ⟨s, hs⟩ := skipSpace_members h (closeObject :: rest)
    obtain ⟨r, hk, hr⟩ := ih bs rest
    rw [← hr]
    trans
    · exact skipFrom_of_next (next_beforeValue _ (skipSpace_append_cons hw rfl _))
    · apply skipFrom_of_next
      rw [next_opened hs, nextInOpened, if_neg (by decide), skipKey_of_skipSpace hs, hk]
      rfl
  | element hw hv hw' ih =>
    intro outer rest
    rw [List.append_assoc, List.append_assoc]
    trans
    · exact ih _ _ _ hw (ends_append hw' (ends_cons rfl _))
    · exact skipFrom_of_next (next_inList (skipSpace_append_cons hw' rfl _))
  | elements hw hv hw' h ihv ih =>
    intro outer rest
    rw [List.append_assoc, List.append_assoc, List.append_assoc, ← ih outer rest]
    trans
    · exact ihv _ _ _ hw (ends_append hw' (ends_cons rfl _))
    · exact skipFrom_of_next (next_inList (skipSpace_append_cons hw' rfl _))
  | member hw hk hw₁ hw₂ hv hw' ih =>
    intro outer rest
    simp only [List.append_assoc, List.cons_append]
    refine ⟨_, skipKey_append hw hk hw₁ _, ?_⟩
    trans
    · exact ih _ _ _ hw₂ (ends_append hw' (ends_cons rfl _))
    · exact skipFrom_of_next (next_inObject (skipSpace_append_cons hw' rfl _))
  | members hw hk hw₁ hw₂ hv hw' h ihv ih =>
    intro outer rest
    simp only [List.append_assoc, List.cons_append]
    obtain ⟨s, hs, hr⟩ := ih outer rest
    refine ⟨_, skipKey_append hw hk hw₁ _, ?_⟩
    rw [← hr]
    trans
    · exact ihv _ _ _ hw₂ (ends_append hw' (ends_cons rfl _))
    · apply skipFrom_of_next
      rw [next_inObject (skipSpace_append_cons hw' rfl _), nextInObject, if_pos rfl, hs]
      rfl

/-- A well-formed value is passed over, with white space before it. -/
theorem skipValue_append (hw : Spaces w) (hv : WellFormed v) (hr : Ends rest) :
  skipValue (w ++ (v ++ rest)) = .ok rest
  := by
  rw [skipValue, passed_of_derives hv [] w rest hw hr, skipFrom]
  rfl

end Value

end Json

end BatchFile
