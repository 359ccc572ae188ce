import BatchFile.Proofs.Footer
import Mathlib.Data.List.Forall2

/-!
# Wire forms

The wire forms of numbers, batches and footers, said without their decoders.  A number has more
than one form, since digits at the end may be zero (`Varint.WireForm`).  Each decoder takes a form
of its value off the front of the bytes, whatever comes behind it, and fails if there is none
(`Varint.reads_decode`, `FileFooter.reads_decode`, `StoredFooter.reads_decode`).
-/

namespace BatchFile

variable {α β : Type}

/-- A decoder takes off the front of the bytes what has the form of a value, and fails if they
do not start with the form of any value. -/
def Reads (decode : Bytes → Except WireError (α × Bytes)) (Form : Bytes → α → Prop) : Prop :=
  ∀ b a rest, decode b = .ok (a, rest) ↔ ∃ form, Form form a ∧ b = form ++ rest

/-- The next bytes, exactly as many as asked for, and what follows them. -/
def takeExact (n : Nat) (b : Bytes) : Except WireError (Bytes × Bytes) :=
  if b.length < n then .error .endOfBuffer else .ok (b.take n, b.drop n)

namespace Reads

variable {decode : Bytes → Except WireError (α × Bytes)} {Form Form' : Bytes → α → Prop}

theorem congr (h : Reads decode Form) (hf : ∀ form a, Form form a ↔ Form' form a) :
  Reads decode Form'
  := by
  intro b a rest
  rw [h b a rest]
  simp only [hf]

/-- A decoder of nothing. -/
theorem pure (a : α) :
  Reads (fun b => .ok (a, b)) fun form a' => form = [] ∧ a' = a
  := by
  intro b a' rest
  simp only [Except.ok.injEq, Prod.mk.injEq]
  constructor
  · rintro ⟨rfl, rfl⟩
    exact ⟨[], ⟨rfl, rfl⟩, rfl⟩
  · rintro ⟨_, ⟨rfl, rfl⟩, rfl⟩
    exact ⟨rfl, rfl⟩

/-- The decoder of a byte string of known length, which is its own form. -/
theorem takeExact (n : Nat) :
  Reads (takeExact n) fun form a => a.length = n ∧ form = a
  := by
  intro b a rest
  rw [BatchFile.takeExact]
  constructor
  · intro h
    split at h
    · cases h
    · rename_i hn
      cases h
      use b.take n, ⟨List.length_take_of_le (Nat.le_of_not_lt hn), rfl⟩
      rw [List.take_append_drop]
  · rintro ⟨_, ⟨rfl, rfl⟩, rfl⟩
    rw [if_neg (by rw [List.length_append]; omega), List.take_left, List.drop_left]

/-- One decoder after another takes off one form after another. -/
theorem bind {next : α → Bytes → Except WireError (β × Bytes)} {Next : α → Bytes → β → Prop}
    (h : Reads decode Form) (hn : ∀ a, Reads (next a) (Next a)) :
  Reads (fun b => do
      let (a, b) ← decode b
      next a b) fun form y => ∃ a front back, Form front a ∧ Next a back y ∧ form = front ++ back
  := by
  intro b y rest
  simp only [exceptBind_eq_ok_iff, Prod.exists]
  constructor
  · rintro ⟨a, b₁, h1, h2⟩
    obtain ⟨front, hf, rfl⟩ := (h _ _ _).mp h1
    obtain ⟨back, hb, rfl⟩ := (hn a _ _ _).mp h2
    use front ++ back, ⟨a, front, back, hf, hb, rfl⟩
    rw [List.append_assoc]
  · rintro ⟨_, ⟨a, front, back, hf, hb, rfl⟩, rfl⟩
    use a, back ++ rest
    constructor
    · apply (h _ _ _).mpr ⟨front, hf, _⟩
      rw [List.append_assoc]
    · exact (hn a _ _ _).mpr ⟨back, hb, rfl⟩

end Reads

/-! ### Variable-length numbers -/

namespace Varint

/-- Bytes that spell a number: its digits to the base 128, lowest first, of which each but the
last is marked by the high bit. -/
inductive Spells : Bytes → Nat → Prop where
  | last {b : UInt8} (h : b.toNat < 128) : Spells [b] b.toNat
  | more {b : UInt8} {form : Bytes} {n : Nat} (h : 128 ≤ b.toNat) (hs : Spells form n) :
    Spells (b :: form) (b.toNat - 128 + 128 * n)

/-- The forms of a number: at most ten bytes that spell it, if it is a word. -/
structure WireForm (form : Bytes) (n : Nat) : Prop where
  spells : Spells form n
  length_le : form.length ≤ maxLength
  lt : n < UInt64.size

variable {k n : Nat} {b form rest : Bytes}

theorem Spells.ne_nil (h : Spells form n) :
  form ≠ []
  := by cases h <;> exact List.cons_ne_nil _ _

theorem two_le_bound (k : Nat) :
  2 ≤ bound k
  := by
  induction k with
  | zero => exact Nat.le_refl 2
  | succ k ih =>
    rw [bound]
    omega

/-- What is decoded has been spelled. -/
theorem spells_of_decodeNat (h : decodeNat (k + 1) b = .ok (n, rest)) :
  ∃ form, Spells form n ∧ form.length ≤ k + 1 ∧ n < bound k ∧ b = form ++ rest
  := by
  induction k generalizing b n with
  | zero =>
    cases b with
    | nil => cases h
    | cons d b =>
      rw [decodeNat] at h
      split at h
      · rename_i hd
        split at h
        · cases h
        · rename_i hl
          cases h
          use [d], .last (UInt8.lt_iff_toNat_lt.mp hd), by simp
          have hl : ¬ 1 < d.toNat := by simpa [UInt8.lt_iff_toNat_lt] using hl
          exact ⟨Nat.lt_succ_of_le (Nat.le_of_not_lt hl), rfl⟩
      · cases h
  | succ k ih =>
    cases b with
    | nil => cases h
    | cons d b =>
      rw [decodeNat] at h
      split at h
      · rename_i hd
        have hd := UInt8.lt_iff_toNat_lt.mp hd
        rw [if_neg (by simp)] at h
        cases h
        use [d], .last hd, by simp
        have hk := two_le_bound k
        have h128 : (128 : UInt8).toNat = 128 := rfl
        rw [bound]
        exact ⟨by omega, rfl⟩
      · rename_i hd
        rw [UInt8.lt_iff_toNat_lt] at hd
        split at h
        · rename_i h'
          cases h
          obtain ⟨form, hs, hl, hb, rfl⟩ := ih h'
          use d :: form, .more (Nat.le_of_not_lt hd) hs, Nat.succ_le_succ hl
          have := d.toNat_lt
          rw [bound]
          exact ⟨by omega, rfl⟩
        · cases h

/-- What is spelled is decoded, if it is short enough. -/
theorem decodeNat_of_spells (h : Spells form n) (hl : form.length ≤ k + 1) (hn : n < bound k)
    (rest : Bytes) :
  decodeNat (k + 1) (form ++ rest) = .ok (n, rest)
  := by
  induction h generalizing k with
  | @last d h =>
    have hd : d < 128 := UInt8.lt_iff_toNat_lt.mpr h
    rw [List.singleton_append, decodeNat, if_pos hd, if_neg]
    rintro ⟨rfl, h1⟩
    have h1 := UInt8.lt_iff_toNat_lt.mp h1
    have hn : d.toNat < 2 := hn
    have hc : (1 : UInt8).toNat = 1 := rfl
    omega
  | @more d form n h hs ih =>
    have hp := List.length_pos_iff.mpr hs.ne_nil
    rw [List.length_cons] at hl
    obtain ⟨k, rfl⟩ := Nat.exists_eq_succ_of_ne_zero (show k ≠ 0 by omega)
    rw [bound] at hn
    have hd : ¬ d < 128 := by
      rw [UInt8.lt_iff_toNat_lt]
      exact Nat.not_lt.mpr h
    rw [List.cons_append, decodeNat, if_neg hd, ih (by omega) (by omega)]

/-- Decoding takes the form of a number off the front. -/
theorem reads_decode :
  Reads decode fun form n => WireForm form n.toNat
  := by
  intro b n rest
  rw [decode, maxLength]
  constructor
  · intro h
    split at h
    · rename_i n' rest' h'
      cases h
      obtain ⟨form, hs, hl, hb, rfl⟩ := spells_of_decodeNat h'
      have hn : (UInt64.ofNat n').toNat = n' := UInt64.toNat_ofNat_of_lt' hb
      exact ⟨form, ⟨hn.symm ▸ hs, hl, hn.symm ▸ hb⟩, rfl⟩
    · cases h
  · rintro ⟨form, ⟨hs, hl, hb⟩, rfl⟩
    rw [decodeNat_of_spells hs hl hb]
    simp only [UInt64.ofNat_toNat]

end Varint

/-! ### Lists of batches -/

/-- The forms of a batch: those of its offset and of its row count. -/
def BatchSummary.WireForm (form : Bytes) (s : BatchSummary) : Prop :=
  ∃ offset recordCount, Varint.WireForm offset s.offset.toNat
    ∧ Varint.WireForm recordCount s.recordCount.toNat ∧ form = offset ++ recordCount

theorem BatchSummary.reads_decode :
  Reads decode WireForm
  := by
  have h := Varint.reads_decode.bind fun offset => Varint.reads_decode.bind fun recordCount =>
    Reads.pure (BatchSummary.mk offset recordCount)
  apply Reads.congr h
  rintro form ⟨offset, recordCount⟩
  constructor
  · rintro ⟨offset, front, _, hf, ⟨recordCount, back, _, hb, ⟨rfl, h⟩, rfl⟩, rfl⟩
    cases h
    rw [List.append_nil]
    use front, back
  · rintro ⟨front, back, hf, hb, rfl⟩
    use offset, front, back, hf
    exact ⟨⟨recordCount, back, [], hb, ⟨rfl, rfl⟩, (List.append_nil back).symm⟩, rfl⟩

namespace FileFooter

/-- The forms of a list of batches: those of its length and of the batches. -/
def WireForm (form : Bytes) (f : FileFooter) : Prop :=
  ∃ count forms, Varint.WireForm count f.batches.length
    ∧ List.Forall₂ BatchSummary.WireForm forms f.batches ∧ form = count ++ forms.flatten

theorem reads_decodeSummaries (n : Nat) :
  Reads (decodeSummaries n) fun form bs => bs.length = n
    ∧ ∃ forms, List.Forall₂ BatchSummary.WireForm forms bs ∧ form = forms.flatten
  := by
  induction n with
  | zero =>
    apply (Reads.pure []).congr
    rintro form bs
    rw [List.length_eq_zero_iff]
    constructor
    · rintro ⟨rfl, rfl⟩
      exact ⟨rfl, [], .nil, rfl⟩
    · rintro ⟨rfl, _, ⟨⟩, rfl⟩
      exact ⟨rfl, rfl⟩
  | succ n ih =>
    have h := BatchSummary.reads_decode.bind fun s => ih.bind fun bs => Reads.pure (s :: bs)
    apply Reads.congr h
    rintro form bs
    constructor
    · rintro ⟨s, front, _, hs, ⟨bs, _, _, ⟨rfl, forms, hb, rfl⟩, ⟨rfl, rfl⟩, rfl⟩, rfl⟩
      use rfl, front :: forms, .cons hs hb
      rw [List.flatten_cons, List.append_nil]
    · rintro ⟨hl, _, hb, rfl⟩
      cases hb with
      | nil => cases hl
      | @cons front s forms bs hs hb =>
        use s, front, forms.flatten, hs
        refine ⟨⟨bs, forms.flatten, [], ⟨Nat.succ.inj hl, forms, hb, rfl⟩, ⟨rfl, rfl⟩, ?_⟩, ?_⟩
        · rw [List.append_nil]
        · rw [List.flatten_cons]

theorem reads_decode :
  Reads decode WireForm
  := by
  have h := Varint.reads_decode.bind fun count =>
    (reads_decodeSummaries count.toNat).bind fun bs => Reads.pure (FileFooter.mk bs)
  apply Reads.congr h
  rintro form ⟨bs⟩
  constructor
  · rintro ⟨count, front, _, hc, ⟨bs, _, _, ⟨hl, forms, hb, rfl⟩, ⟨rfl, h⟩, rfl⟩, rfl⟩
    cases h
    rw [List.append_nil]
    use front, forms, hl ▸ hc
  · rintro ⟨front, forms, hc, hb, rfl⟩
    have hl : (UInt64.ofNat bs.length).toNat = bs.length := UInt64.toNat_ofNat_of_lt' hc.lt
    use UInt64.ofNat bs.length, front, forms.flatten, hl.symm ▸ hc
    refine ⟨⟨bs, forms.flatten, [], ⟨hl.symm, forms, hb, rfl⟩, ⟨rfl, rfl⟩, ?_⟩, rfl⟩
    rw [List.append_nil]

end FileFooter

/-! ### Stored footers -/

namespace StoredFooter

/-- The forms of a stored footer: those of the length of its schema, the schema, and those of the
batches. -/
def WireForm (form : Bytes) (s : StoredFooter) : Prop :=
  ∃ length footer, Varint.WireForm length s.schema.length ∧ FileFooter.WireForm footer s.footer
    ∧ form = length ++ s.schema ++ footer

theorem decode_eq :
  decode = fun b => (do
    let (length, b) ← Varint.decode b
    let (schema, b) ← takeExact length.toNat b
    let (footer, b) ← FileFooter.decode b
    .ok (StoredFooter.mk schema footer, b))
  := by
  funext b
  rw [decode]
  congr 1
  funext x
  obtain ⟨length, b⟩ := x
  simp only [takeExact]
  split <;> rfl

theorem reads_decode :
  Reads decode WireForm
  := by
  have h := Varint.reads_decode.bind fun length => (Reads.takeExact length.toNat).bind fun schema =>
    FileFooter.reads_decode.bind fun footer => Reads.pure (StoredFooter.mk schema footer)
  rw [decode_eq]
  apply Reads.congr h
  rintro form ⟨schema, footer⟩
  constructor
  · rintro ⟨length, front, _, hl, ⟨schema, _, _, ⟨hs, rfl⟩, ⟨footer, back, _, hf, ⟨rfl, h⟩, rfl⟩,
      rfl⟩, rfl⟩
    cases h
    rw [List.append_nil, ← List.append_assoc]
    use front, back, hs ▸ hl
  · rintro ⟨front, back, hl, hf, rfl⟩
    have hn : (UInt64.ofNat schema.length).toNat = schema.length := UInt64.toNat_ofNat_of_lt' hl.lt
    use UInt64.ofNat schema.length, front, schema ++ back, hn.symm ▸ hl
    refine ⟨⟨schema, schema, back, ⟨hn.symm, rfl⟩, ⟨footer, back, [], hf, ⟨rfl, rfl⟩, ?_⟩, rfl⟩, ?_⟩
    · rw [List.append_nil]
    · rw [List.append_assoc]

end StoredFooter

end BatchFile
