import BatchFile.Json.Writer
import BatchFile.Proofs.Json.Record

/-!
# Words in decimal

The decimal digits of a number have its value and no leading zeros, and the decoder of words finds
in them the word they were written for, up to the largest one (`Json.word_finds`).  On the way
there it is decided whether the number is too large for floating point, which no word is
(`Json.not_overflows`).
-/

namespace BatchFile

namespace Json

/-! ### Decimal digits -/

section Digits

variable {n : Nat}

theorem isDigit_ofNat :
  ∀ k < 10, isDigit (UInt8.ofNat (0x30 + k)) = true
  := by decide

theorem digitValue_ofNat :
  ∀ k < 10, digitValue (UInt8.ofNat (0x30 + k)) = k
  := by decide

theorem ofNat_ne_zeroDigit :
  ∀ k < 10, k ≠ 0 → UInt8.ofNat (0x30 + k) ≠ 0x30
  := by decide

theorem digits_decimal (n : Nat) :
  Digits (decimal n)
  := by
  fun_induction decimal n with
  | case1 n h =>
    constructor
    · simp
    · simpa using isDigit_ofNat n h
  | case2 n h ih =>
    obtain ⟨-, hds⟩ := ih
    constructor
    · simp
    · intro b hb
      obtain hb | hb := List.mem_append.mp hb
      · exact hds b hb
      · rw [List.mem_singleton.mp hb]
        exact isDigit_ofNat _ (Nat.mod_lt n (by decide))

/-- The digits of a number have its value. -/
theorem digitsValue_decimal (n : Nat) :
  digitsValue (decimal n) = n
  := by
  fun_induction decimal n with
  | case1 n h =>
    simp only [digitsValue, List.foldl_cons, List.foldl_nil, digitValue_ofNat n h]
    omega
  | case2 n h ih =>
    rw [digitsValue, List.foldl_append, ← digitsValue, ih, List.foldl_cons, List.foldl_nil,
      digitValue_ofNat _ (Nat.mod_lt n (by decide))]
    omega

/-- The digits of a positive number do not start with zero. -/
theorem decimal_starts (h : 0 < n) :
  ∃ b ds, decimal n = b :: ds ∧ b ≠ 0x30
  := by
  fun_induction decimal n with
  | case1 n hn => exact ⟨_, _, rfl, ofNat_ne_zeroDigit n hn (by omega)⟩
  | case2 n hn ih =>
    obtain ⟨b, ds, hd, hb⟩ := ih (by omega)
    rw [hd]
    exact ⟨b, _, rfl, hb⟩

theorem integerText_decimal (n : Nat) :
  IntegerText (decimal n)
  := by
  obtain rfl | h := Nat.eq_zero_or_pos n
  · rw [decimal]
    exact .zero
  · have hd := digits_decimal n
    obtain ⟨b, ds, he, hb⟩ := decimal_starts h
    rw [he] at hd ⊢
    exact .digits hb hd

end Digits

/-! ### Reading digits -/

section Read

variable {ds rest : Bytes} {n : Nat}

theorem readSomeDigits_append (h : Digits ds) (hr : startsWithDigit rest = false) :
  readSomeDigits (ds ++ rest) = .ok (ds, rest)
  := by
  have ht : digits (ds ++ rest) = ds := by
    rw [digits, List.takeWhile_append_of_pos h.isDigit_of_mem]
    cases rest with
    | nil => simp
    | cons b rest =>
      rw [startsWithDigit] at hr
      simp [hr]
  have hs := skipDigits_append h.isDigit_of_mem hr
  obtain ⟨hne, hds⟩ := h
  cases ds with
  | nil => exact (hne rfl).elim
  | cons b ds =>
    rw [List.cons_append] at ht hs ⊢
    rw [readSomeDigits, if_pos (hds b List.mem_cons_self), ht, hs]

theorem IntegerText.toDigits (h : IntegerText ds) :
  Digits ds
  := by
  cases h with
  | zero => exact ⟨nofun, by simp; rfl⟩
  | digits _ h => exact h

theorem readInteger_append (h : IntegerText ds) (hr : startsWithDigit rest = false) :
  readInteger (ds ++ rest) = .ok (ds, rest)
  := by
  rw [readInteger, readSomeDigits_append h.toDigits hr]
  cases h with
  | zero => rfl
  | digits hb _ => exact if_neg (by simp [hb])

theorem readFraction_of_ends (hr : Ends rest) :
  readFraction rest = .ok (none, rest)
  := by
  cases rest with
  | nil => rfl
  | cons b rest => exact if_neg hr.head.2.1

theorem readExponent_of_ends (hr : Ends rest) :
  readExponent rest = .ok (none, rest)
  := by
  cases rest with
  | nil => rfl
  | cons b rest => exact if_neg (by simp [hr.head.2.2])

end Read

/-! ### Values of numbers -/

section Value

variable {n : Nat} {ds rest w : Bytes}

theorem le_foldl_digits (n : Nat) (ds : Bytes) :
  n ≤ ds.foldl (fun n d => n * 10 + digitValue d) n
  := by
  induction ds generalizing n with
  | nil => exact Nat.le_refl n
  | cons d ds ih =>
    apply Nat.le_trans _ (ih (n * 10 + digitValue d))
    omega

/-- A significand takes in all digits of a number that is a word. -/
theorem addInteger_of_le {s : Significand}
    (h : ds.foldl (fun n d => n * 10 + digitValue d) s.value ≤ maxWord) :
  s.addInteger ds = { s with value := ds.foldl (fun n d => n * 10 + digitValue d) s.value }
  := by
  induction ds generalizing s with
  | nil => rfl
  | cons d ds ih =>
    rw [List.foldl_cons] at h ⊢
    rw [Significand.addInteger, if_pos (Nat.le_trans (le_foldl_digits _ ds) h), ih h]

theorem roundTo53_le (n : Nat) :
  roundTo53 n ≤ 2 * n
  := by
  rw [roundTo53]
  split
  · omega
  · next h =>
    have hn : n ≠ 0 := by
      rintro rfl
      exact h (by decide)
    have hunit : 1 <<< (n.log2 - 52) ≤ n := by
      rw [Nat.one_shiftLeft]
      calc 2 ^ (n.log2 - 52) ≤ 2 ^ n.log2 := Nat.pow_le_pow_right (by decide) (Nat.sub_le _ _)
        _ ≤ n := Nat.log2_self_le hn
    have hlow := Nat.div_mul_le_self n (1 <<< (n.log2 - 52))
    dsimp only
    split
    · omega
    · omega

/-- No word is too large for floating point. -/
theorem not_overflows (h : n ≤ maxWord) :
  Significand.overflows ⟨n, 0⟩ = false
  := by
  have hr : roundTo53 n * roundTo53 (Nat.pow 10 (Int.toNat 0)) ≤ 2 * maxWord := by
    have hone : roundTo53 (Nat.pow 10 (Int.toNat 0)) = 1 := rfl
    rw [hone, Nat.mul_one]
    exact Nat.le_trans (roundTo53_le n) (Nat.mul_le_mul_left 2 h)
  have hmax : 2 * maxWord < (1 <<< 1024) - (1 <<< 970) := by decide
  have hf : ¬ (1 <<< 1024) - (1 <<< 970) ≤ roundTo53 n * roundTo53 (Nat.pow 10 (Int.toNat 0)) :=
    Nat.not_le.mpr (Nat.lt_of_le_of_lt hr hmax)
  rw [Significand.overflows, Bool.and_eq_false_iff, Bool.or_eq_false_iff]
  right
  exact ⟨rfl, decide_eq_false hf⟩

theorem numberValue_decimal (h : n ≤ maxWord) :
  numberValue (decimal n) none none = .ok (some n)
  := by
  have hd := digitsValue_decimal n
  have ha : Significand.addInteger ⟨0, 0⟩ (decimal n) = ⟨n, 0⟩ := by
    rw [addInteger_of_le]
    · exact congrArg (Significand.mk · 0) hd
    · exact Nat.le_trans (Nat.le_of_eq hd) h
  rw [numberValue, ha, hd]
  simp [Significand.addFraction, not_overflows h, h]

theorem readNumber_decimal (h : n ≤ maxWord) (hr : Ends rest) :
  readNumber (decimal n ++ rest) = .ok (some n, rest)
  := by
  have hd := readInteger_append (integerText_decimal n) hr.startsWithDigit
  simp only [readNumber, hd, bind, Except.bind, readFraction_of_ends hr, readExponent_of_ends hr,
    numberValue_decimal h]
  rfl

/-- A word is found where it was written in decimal. -/
theorem word_finds (n : UInt64) :
  word.Finds (writeWord n) n
  := by
  intro w rest hw hr
  have hn : n.toNat ≤ maxWord := Nat.le_pred_of_lt n.toNat_lt
  have hd := readNumber_decimal hn hr
  obtain ⟨hne, hds⟩ := digits_decimal n.toNat
  rw [writeWord]
  cases hc : decimal n.toNat with
  | nil => exact (hne hc).elim
  | cons b ds =>
    rw [hc] at hd hds
    have hb := hds b List.mem_cons_self
    have hs : isSpace b = false := (startsValue_ne (by simp [startsValue, hb])).1
    rw [List.cons_append] at hd ⊢
    rw [word, afterSpace_decode hw hs, readWord, if_pos hb, hd]
    simp only [UInt64.ofNat_toNat]

end Value

end Json

end BatchFile
