import BatchFile.Framing
import BatchFile.Proofs.Footer.WireForm

/-!
# Footers end by themselves

The decoder of a value does not look behind the bytes that it takes off, and if these bytes are cut
short anywhere, it finds that they end too early (`AsksForMore`).  A value may take more bytes than
it is encoded with, since numbers may be padded with zero digits; if none is, then its bytes are
those that it is encoded with (`Spelling`).  `StoredFooter.delimits_decode` has all of this for
stored footers, with their schemas, and for lists of batches alone.
-/

namespace BatchFile

variable {α β : Type}

/-! ### Bytes that are cut short -/

/-- If the bytes that a value takes are cut short, then the decoder finds that they end too
early. -/
def AsksForMore (decode : Bytes → Except WireError (α × Bytes)) : Prop :=
  ∀ used a rest, decode (used ++ rest) = .ok (a, rest) →
    ∀ p, p <+: used → p ≠ used → decode p = .error .endOfBuffer

/-- What an appended list starts with ends in the first part, or takes in all of it. -/
theorem prefix_append_cases {p front back : List α} (h : p <+: front ++ back) :
  (p <+: front ∧ p ≠ front) ∨ ∃ q, q <+: back ∧ p = front ++ q
  := by
  rcases List.prefix_or_prefix_of_prefix h (List.prefix_append front back) with h' | ⟨q, rfl⟩
  · by_cases he : p = front
    · right
      exact ⟨[], List.nil_prefix, by rw [he, List.append_nil]⟩
    · left
      exact ⟨h', he⟩
  · right
    exact ⟨q, (List.prefix_append_right_inj front).mp h, rfl⟩

/-- A decoder takes off the forms of values, and asks for more if a form is cut short. -/
structure Takes (decode : Bytes → Except WireError (α × Bytes)) (Form : Bytes → α → Prop) :
    Prop where
  reads : Reads decode Form
  asksForMore : AsksForMore decode

namespace Takes

variable {decode : Bytes → Except WireError (α × Bytes)} {Form : Bytes → α → Prop}

theorem pure (a : α) :
  Takes (fun b => .ok (a, b)) fun form a' => form = [] ∧ a' = a
  where
  reads := Reads.pure a
  asksForMore := by
    intro used _ rest h p hp hne
    obtain ⟨-, hu⟩ : a = _ ∧ used = [] := by simpa using h
    rw [hu] at hp hne
    exact (hne (List.prefix_nil.mp hp)).elim

theorem takeExact (n : Nat) :
  Takes (takeExact n) fun form a => a.length = n ∧ form = a
  where
  reads := Reads.takeExact n
  asksForMore := by
    intro used a rest h p hp hne
    obtain ⟨form, ⟨hl, rfl⟩, hf⟩ := (Reads.takeExact n _ _ _).mp h
    obtain rfl := List.append_cancel_right hf
    have hlt : p.length < used.length :=
      Nat.lt_of_le_of_ne hp.length_le fun he => hne (hp.eq_of_length he)
    rw [BatchFile.takeExact, if_pos (by omega)]

/-- If the bytes of two values are cut short, then in those of the first or in those of the
second. -/
theorem bind {next : α → Bytes → Except WireError (β × Bytes)} {Next : α → Bytes → β → Prop}
    (h : Takes decode Form) (hn : ∀ a, Takes (next a) (Next a)) :
  Takes (fun b => do
      let (a, b) ← decode b
      next a b) fun form y => ∃ a front back, Form front a ∧ Next a back y ∧ form = front ++ back
  where
  reads := h.reads.bind fun a => (hn a).reads
  asksForMore := by
    intro used y rest hd p hp hne
    simp only [exceptBind_eq_ok_iff, Prod.exists] at hd
    obtain ⟨a, b, h1, h2⟩ := hd
    obtain ⟨back, hb, rfl⟩ := ((hn a).reads _ _ _).mp h2
    obtain ⟨front, hf, he⟩ := (h.reads _ _ _).mp h1
    rw [← List.append_assoc] at he
    obtain rfl := List.append_cancel_right he
    rw [List.append_assoc] at h1
    beta_reduce
    rcases prefix_append_cases hp with ⟨hp, he⟩ | ⟨q, hq, rfl⟩
    · rw [h.asksForMore _ _ _ h1 p hp he]
      rfl
    · have hd : decode (front ++ q) = .ok (a, q) := (h.reads _ _ _).mpr ⟨front, hf, rfl⟩
      rw [hd]
      apply (hn a).asksForMore _ _ _ h2 q hq
      rintro rfl
      exact hne rfl

end Takes

/-! ### Variable-length numbers -/

namespace Varint

variable {k n : Nat} {b form : Bytes}

/-- All bytes but the last of a number that is spelled are marked. -/
theorem Spells.marked_of_prefix (h : Spells form n) {p : Bytes} (hp : p <+: form) (hne : p ≠ form) :
  ∀ d ∈ p, 128 ≤ d.toNat
  := by
  induction h generalizing p with
  | last =>
    rcases List.prefix_cons_iff.mp hp with rfl | ⟨q, rfl, hq⟩
    · nofun
    · rw [List.prefix_nil.mp hq] at hne
      exact (hne rfl).elim
  | @more d form n hd hs ih =>
    rcases List.prefix_cons_iff.mp hp with rfl | ⟨q, rfl, hq⟩
    · nofun
    · have hq := ih hq fun he => hne (by rw [he])
      simpa using ⟨hd, hq⟩

/-- Marked bytes, fewer than a number may have, end too early. -/
theorem decodeNat_of_marked (hb : ∀ d ∈ b, 128 ≤ d.toNat) (hl : b.length < k) :
  decodeNat k b = .error .endOfBuffer
  := by
  induction b generalizing k with
  | nil =>
    obtain ⟨k, rfl⟩ := Nat.exists_eq_succ_of_ne_zero (Nat.ne_of_gt hl)
    rfl
  | cons d b ih =>
    rw [List.length_cons] at hl
    obtain ⟨k, rfl⟩ := Nat.exists_eq_succ_of_ne_zero (show k ≠ 0 by omega)
    have hd : ¬ d < 128 := by
      rw [UInt8.lt_iff_toNat_lt]
      exact Nat.not_lt.mpr (hb d List.mem_cons_self)
    rw [decodeNat, if_neg hd, ih (fun x hx => hb x (List.mem_cons_of_mem d hx)) (by omega)]

theorem takes_decode :
  Takes decode fun form n => WireForm form n.toNat
  where
  reads := reads_decode
  asksForMore := by
    intro used n rest h p hp hne
    obtain ⟨form, hf, he⟩ := (reads_decode _ _ _).mp h
    obtain rfl := List.append_cancel_right he
    have hlt : p.length < used.length :=
      Nat.lt_of_le_of_ne hp.length_le fun he => hne (hp.eq_of_length he)
    have hl : p.length < maxLength := Nat.lt_of_lt_of_le hlt hf.length_le
    rw [decode, decodeNat_of_marked (hf.spells.marked_of_prefix hp hne) hl]

/-- A number is not terminated if all bytes before the last that it may have are marked, and that
one is more than one. -/
theorem decodeNat_eq_unterminated_iff :
  decodeNat (k + 1) b = .error .unterminatedNumber
    ↔ k < b.length ∧ (∀ d ∈ b.take k, 128 ≤ d.toNat) ∧ 1 < (b.getD k 0).toNat
  := by
  induction k generalizing b with
  | zero =>
    cases b with
    | nil => simp [decodeNat]
    | cons d b =>
      by_cases hd : d < 128
      · by_cases h1 : 1 < d
        · simpa [decodeNat, hd, h1] using UInt8.lt_iff_toNat_lt.mp h1
        · simpa [decodeNat, hd, h1] using UInt8.le_iff_toNat_le.mp (UInt8.not_lt.mp h1)
      · have h1 := UInt8.le_iff_toNat_le.mp (UInt8.not_lt.mp hd)
        have h128 : (128 : UInt8).toNat = 128 := rfl
        simp [decodeNat, hd]
        omega
  | succ k ih =>
    cases b with
    | nil => simp [decodeNat]
    | cons d b =>
      by_cases hd : d < 128
      · have h1 : d.toNat < 128 := UInt8.lt_iff_toNat_lt.mp hd
        simp [decodeNat, hd]
        omega
      · have h1 : 128 ≤ d.toNat := UInt8.le_iff_toNat_le.mp (UInt8.not_lt.mp hd)
        have he : decodeNat (k + 1 + 1) (d :: b) = .error .unterminatedNumber
            ↔ decodeNat (k + 1) b = .error .unterminatedNumber := by
          rw [decodeNat, if_neg hd]
          cases decodeNat (k + 1) b <;> simp
        rw [he, ih]
        simp [h1]

/-- A number is rejected if it does not end within ten bytes, or if its tenth byte is more than
one. -/
theorem decode_eq_unterminated_iff :
  decode b = .error .unterminatedNumber
    ↔ maxLength ≤ b.length ∧ (∀ d ∈ b.take (maxLength - 1), 128 ≤ d.toNat)
      ∧ 1 < (b.getD (maxLength - 1) 0).toNat
  := by
  have h : decodeNat maxLength b = .error .unterminatedNumber
      ↔ maxLength ≤ b.length ∧ (∀ d ∈ b.take (maxLength - 1), 128 ≤ d.toNat)
        ∧ 1 < (b.getD (maxLength - 1) 0).toNat := decodeNat_eq_unterminated_iff
  rw [decode, ← h]
  cases decodeNat maxLength b <;> simp

/-! ### Padded numbers -/

/-- A form of a number is padded if its last digit is zero, but is not the only one. -/
def Padded (form : Bytes) : Prop :=
  1 < form.length ∧ form.getLast? = some 0

instance (form : Bytes) : Decidable (Padded form) :=
  inferInstanceAs (Decidable (_ ∧ _))

/-- The numbers that bytes consist of.  Each goes as far as the next byte that is not marked. -/
def numbersIn : Bytes → List Bytes
  | [] => []
  | d :: b =>
    if d < 128 then [d] :: numbersIn b
    else
      match numbersIn b with
      | [] => [[d]]
      | form :: forms => (d :: form) :: forms

theorem Spells.numbersIn_append (h : Spells form n) (b : Bytes) :
  numbersIn (form ++ b) = form :: numbersIn b
  := by
  induction h with
  | @last d hd =>
    have hd : d < 128 := UInt8.lt_iff_toNat_lt.mpr hd
    rw [List.singleton_append, numbersIn, if_pos hd]
  | @more d form n hd hs ih =>
    have hd : ¬ d < 128 := UInt8.not_lt.mpr (UInt8.le_iff_toNat_le.mpr hd)
    rw [List.cons_append, numbersIn, if_neg hd, ih]

/-- All digits of zero are zero, and so is the last one. -/
theorem Spells.getLast?_of_eq_zero (h : Spells form n) (h0 : n = 0) :
  form.getLast? = some 0
  := by
  induction h with
  | @last d hd =>
    rw [List.getLast?_singleton, UInt8.toNat_inj.mp (h0.trans UInt8.toNat_zero.symm)]
  | @more d form n hd hs ih =>
    obtain ⟨e, b, rfl⟩ := List.exists_cons_of_ne_nil hs.ne_nil
    rw [List.getLast?_cons_cons]
    apply ih
    omega

/-- One more digit in front makes no difference to padding, unless there are only zeros behind
it. -/
theorem Spells.padded_cons_iff (h : Spells form n) (d : UInt8) :
  Padded (d :: form) ↔ n = 0 ∨ Padded form
  := by
  have hl := List.length_pos_iff.mpr h.ne_nil
  have hp : Padded (d :: form) ↔ form.getLast? = some 0 := by
    obtain ⟨e, b, rfl⟩ := List.exists_cons_of_ne_nil h.ne_nil
    rw [Padded, List.getLast?_cons_cons, List.length_cons]
    exact and_iff_right (by omega)
  rw [hp]
  constructor
  · intro hz
    cases h with
    | @last e he =>
      left
      rw [List.getLast?_singleton, Option.some_inj] at hz
      rw [hz, UInt8.toNat_zero]
    | @more e form n he hs =>
      right
      have hf := List.length_pos_iff.mpr hs.ne_nil
      exact ⟨by rw [List.length_cons]; omega, hz⟩
  · rintro (h0 | h)
    · apply h.getLast?_of_eq_zero h0
    · apply h.2

/-- A number is encoded with no more bytes than any of its forms has, and with just those of the
form that is not padded. -/
theorem Spells.encodeNat_le (h : Spells form n) :
  (encodeNat n).length ≤ form.length ∧ (encodeNat n = form ↔ ¬ Padded form)
  := by
  induction h with
  | @last d hd =>
    have he : encodeNat d.toNat = [d] := by
      rw [encodeNat, if_pos hd, UInt8.ofNat_toNat]
    rw [he]
    simp [Padded]
  | @more d form n hd hs ih =>
    have hl := d.toNat_lt
    have hf := List.length_pos_iff.mpr hs.ne_nil
    rw [encodeNat, hs.padded_cons_iff d]
    by_cases h0 : n = 0
    · rw [if_pos (by omega)]
      have hne : [UInt8.ofNat (d.toNat - 128 + 128 * n)] ≠ d :: form := by
        intro he
        exact hs.ne_nil (List.cons.inj he).2.symm
      exact ⟨Nat.succ_le_succ (Nat.zero_le _), iff_of_false hne (not_not.mpr (.inl h0))⟩
    · have hq : (d.toNat - 128 + 128 * n) / 128 = n := by omega
      have hr : (d.toNat - 128 + 128 * n) % 128 + 128 = d.toNat := by omega
      rw [if_neg (by omega), hq, hr, UInt8.ofNat_toNat, or_iff_right h0, ← ih.2]
      exact ⟨Nat.succ_le_succ ih.1, by simp⟩

end Varint

/-! ### Bytes that a value takes -/

/-- The bytes `used` spell a value with the given numbers.  These are forms of words.  The value is
encoded with no more bytes, and with just these unless one of the numbers is padded. -/
structure Spelling (encoded used : Bytes) (numbers : List Bytes) : Prop where
  isForm : ∀ form ∈ numbers, ∃ n, Varint.WireForm form n
  length_le : encoded.length ≤ used.length
  eq_iff : encoded = used ↔ ∀ form ∈ numbers, ¬ Varint.Padded form

namespace Spelling

variable {encoded encoded' used used' : Bytes} {numbers numbers' : List Bytes}

theorem refl (b : Bytes) :
  Spelling b b []
  := ⟨nofun, Nat.le_refl _, by simp⟩

theorem append (h : Spelling encoded used numbers) (h' : Spelling encoded' used' numbers') :
  Spelling (encoded ++ encoded') (used ++ used') (numbers ++ numbers')
  where
  isForm := List.forall_mem_append.mpr ⟨h.isForm, h'.isForm⟩
  length_le := by
    rw [List.length_append, List.length_append]
    exact Nat.add_le_add h.length_le h'.length_le
  eq_iff := by
    have h1 := h.length_le
    have h2 := h'.length_le
    rw [List.forall_mem_append, ← h.eq_iff, ← h'.eq_iff]
    constructor
    · intro he
      have hl := congrArg List.length he
      rw [List.length_append, List.length_append] at hl
      exact List.append_inj he (by omega)
    · rintro ⟨rfl, rfl⟩
      rfl

end Spelling

/-- The bytes `used` are what the decoder takes off for the value `a`.  It finds the value whatever
comes behind them, and asks for more if they are cut short.  They have the form of the value, and
spell it with the given numbers. -/
structure Delimits (decode : Bytes → Except WireError (α × Bytes)) (encode : α → Bytes)
    (Form : Bytes → α → Prop) (numbers : List Bytes) (used : Bytes) (a : α) : Prop where
  decode_append : ∀ behind, decode (used ++ behind) = .ok (a, behind)
  decode_cut : ∀ p, p <+: used → p ≠ used → decode p = .error .endOfBuffer
  form : Form used a
  spelling : Spelling (encode a) used numbers

theorem Takes.exists_delimits {decode : Bytes → Except WireError (α × Bytes)} {encode : α → Bytes}
    {Form : Bytes → α → Prop} (numbersIn : α → Bytes → List Bytes) (ht : Takes decode Form)
    (hs : ∀ used a, Form used a → Spelling (encode a) used (numbersIn a used))
    {b rest : Bytes} {a : α} (h : decode b = .ok (a, rest)) :
  ∃ used, b = used ++ rest ∧ Delimits decode encode Form (numbersIn a used) used a
  := by
  obtain ⟨used, hf, rfl⟩ := (ht.reads _ _ _).mp h
  use used, rfl
  exact ⟨fun _ => (ht.reads _ _ _).mpr ⟨used, hf, rfl⟩, ht.asksForMore used a rest h, hf,
    hs used a hf⟩

/-! ### Lists of batches -/

theorem Varint.WireForm.spelling {form : Bytes} {n : UInt64} (h : WireForm form n.toNat) :
  Spelling (encode n) form [form]
  := by
  obtain ⟨hl, he⟩ := h.spells.encodeNat_le
  refine ⟨List.forall_mem_singleton.mpr ⟨_, h⟩, hl, ?_⟩
  rw [encode, he, List.forall_mem_singleton]

namespace BatchSummary

theorem takes_decode :
  Takes decode WireForm
  where
  reads := reads_decode
  asksForMore := (Varint.takes_decode.bind fun offset => Varint.takes_decode.bind fun recordCount =>
    Takes.pure (BatchSummary.mk offset recordCount)).asksForMore

/-- A batch consists of two numbers. -/
theorem WireForm.spelling {form : Bytes} {s : BatchSummary} (h : WireForm form s) :
  ∃ numbers, Spelling s.encode form numbers
    ∧ ∀ b, Varint.numbersIn (form ++ b) = numbers ++ Varint.numbersIn b
  := by
  obtain ⟨offset, recordCount, ho, hr, rfl⟩ := h
  use [offset] ++ [recordCount], ho.spelling.append hr.spelling
  intro b
  rw [List.append_assoc, ho.spells.numbersIn_append, hr.spells.numbersIn_append]
  rfl

end BatchSummary

namespace FileFooter

theorem takes_decodeSummaries (n : Nat) :
  Takes (decodeSummaries n) fun form bs => bs.length = n
    ∧ ∃ forms, List.Forall₂ BatchSummary.WireForm forms bs ∧ form = forms.flatten
  where
  reads := reads_decodeSummaries n
  asksForMore := by
    induction n with
    | zero => exact (Takes.pure []).asksForMore
    | succ n ih =>
      exact (BatchSummary.takes_decode.bind fun s =>
        (Takes.mk (reads_decodeSummaries n) ih).bind fun bs => Takes.pure (s :: bs)).asksForMore

theorem takes_decode :
  Takes decode WireForm
  where
  reads := reads_decode
  asksForMore := (Varint.takes_decode.bind fun count =>
    (takes_decodeSummaries count.toNat).bind fun bs => Takes.pure (FileFooter.mk bs)).asksForMore

theorem spelling_summaries {forms : List Bytes} {bs : List BatchSummary}
    (h : List.Forall₂ BatchSummary.WireForm forms bs) :
  Spelling (bs.flatMap BatchSummary.encode) forms.flatten (Varint.numbersIn forms.flatten)
  := by
  induction h with
  | nil => exact .refl []
  | cons hs _ ih =>
    obtain ⟨numbers, hn, hb⟩ := hs.spelling
    rw [List.flatMap_cons, List.flatten_cons, hb]
    exact hn.append ih

theorem WireForm.spelling {used : Bytes} {f : FileFooter} (h : WireForm used f) :
  Spelling f.encode used (Varint.numbersIn used)
  := by
  obtain ⟨count, forms, hc, hf, rfl⟩ := h
  have hl : (UInt64.ofNat f.batches.length).toNat = f.batches.length :=
    UInt64.toNat_ofNat_of_lt' hc.lt
  rw [← hl] at hc
  rw [hc.spells.numbersIn_append, encode]
  exact hc.spelling.append (spelling_summaries hf)

end FileFooter

/-! ### Stored footers -/

namespace StoredFooter

/-- The numbers in the bytes of a stored footer: the length of the schema, and those of the batches
behind the schema. -/
def numbersIn (s : StoredFooter) (used : Bytes) : List Bytes :=
  let length := (Varint.numbersIn used).headD []
  length :: Varint.numbersIn (used.drop (length.length + s.schema.length))

theorem takes_decode :
  Takes decode WireForm
  where
  reads := reads_decode
  asksForMore := by
    rw [decode_eq]
    have h := Varint.takes_decode.bind fun length =>
      (Takes.takeExact length.toNat).bind fun schema =>
        FileFooter.takes_decode.bind fun footer => Takes.pure (StoredFooter.mk schema footer)
    exact h.asksForMore

theorem WireForm.spelling {used : Bytes} {s : StoredFooter} (h : WireForm used s) :
  Spelling s.encode used (s.numbersIn used)
  := by
  obtain ⟨length, footer, hl, hf, rfl⟩ := h
  have hn : (UInt64.ofNat s.schema.length).toNat = s.schema.length :=
    UInt64.toNat_ofNat_of_lt' hl.lt
  rw [← hn] at hl
  have hd : (length ++ (s.schema ++ footer)).drop (length.length + s.schema.length) = footer := by
    rw [← List.append_assoc, ← List.length_append, List.drop_left]
  rw [numbersIn, encode, List.append_assoc, List.append_assoc, hl.spells.numbersIn_append,
    List.headD_cons, hd]
  exact hl.spelling.append ((Spelling.refl s.schema).append hf.spelling)

end StoredFooter

/-- If the bytes of a stored footer are cut short, then the footer cannot be decoded. -/
theorem decodeFooter_cut [Ipc.Decoder] {used rest p : Bytes} {s : StoredFooter}
    (h : StoredFooter.decode (used ++ rest) = .ok (s, rest)) (hp : p <+: used) (hne : p ≠ used) :
  decodeFooter p = .error (.malformedFooter .endOfBuffer)
  := by rw [decodeFooter, StoredFooter.takes_decode.asksForMore used s rest h p hp hne]

/-- The bytes that are taken off for a stored footer delimit it, and so do those for a list of
batches; a footer that is cut short is malformed.  A number that does not end within ten bytes, or
whose tenth byte is more than one, is rejected. -/
theorem StoredFooter.delimits_decode [Ipc.Decoder] :
  (∀ b s rest, decode b = .ok (s, rest) → ∃ used, b = used ++ rest
    ∧ Delimits decode encode WireForm (s.numbersIn used) used s
    ∧ ∀ p, p <+: used → p ≠ used → decodeFooter p = .error (.malformedFooter .endOfBuffer))
  ∧ (∀ b f rest, FileFooter.decode b = .ok (f, rest) → ∃ used, b = used ++ rest
    ∧ Delimits FileFooter.decode FileFooter.encode FileFooter.WireForm (Varint.numbersIn used) used
      f)
  ∧ ∀ b, Varint.decode b = .error .unterminatedNumber
    ↔ Varint.maxLength ≤ b.length ∧ (∀ d ∈ b.take (Varint.maxLength - 1), 128 ≤ d.toNat)
      ∧ 1 < (b.getD (Varint.maxLength - 1) 0).toNat
  := by
  refine ⟨?_, ?_, fun _ => Varint.decode_eq_unterminated_iff⟩
  · intro b s rest h
    obtain ⟨used, rfl, hd⟩ :=
      takes_decode.exists_delimits numbersIn (fun _ _ hf => hf.spelling) h
    exact ⟨used, rfl, hd, fun _ hp hne => decodeFooter_cut h hp hne⟩
  · intro b f rest h
    apply FileFooter.takes_decode.exists_delimits (fun _ => Varint.numbersIn) _ h
    exact fun _ _ hf => hf.spelling

/-! ### Padded footers -/

/-- A stored footer in which the length of the schema, the number of batches and a row count are
padded, and a byte behind it. -/
def Sample.paddedFooter : Bytes := [0x82, 0x80, 0, 5, 6, 0x81, 0, 10, 0x83, 0, 9]

/-- The footer ends in front of the last byte, and so does its list of batches.  Nine marked bytes
in front of a two are no number. -/
theorem StoredFooter.delimits_decode_padded [Ipc.Decoder] :
  (∃ used, Sample.paddedFooter = used ++ [9]
    ∧ Delimits decode encode WireForm
      (numbersIn ⟨[5, 6], ⟨[⟨10, 3⟩]⟩⟩ used) used ⟨[5, 6], ⟨[⟨10, 3⟩]⟩⟩
    ∧ ∀ p, p <+: used → p ≠ used → decodeFooter p = .error (.malformedFooter .endOfBuffer))
  ∧ (∃ used, Sample.paddedFooter.drop 5 = used ++ [9]
    ∧ Delimits FileFooter.decode FileFooter.encode FileFooter.WireForm (Varint.numbersIn used) used
      ⟨[⟨10, 3⟩]⟩)
  ∧ Varint.decode (List.replicate 9 0xff ++ [2]) = .error .unterminatedNumber
  := by
  obtain ⟨hstored, hfooter, hnumber⟩ := delimits_decode
  refine ⟨hstored _ _ _ ?_, hfooter _ _ _ ?_, (hnumber _).mpr ?_⟩
  · rfl
  · rfl
  · decide +kernel

end BatchFile
