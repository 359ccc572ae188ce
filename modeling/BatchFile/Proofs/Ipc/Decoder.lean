import BatchFile.Ipc.Decoder
import BatchFile.Proofs.Action

/-!
# Decodings and their sources

What a decoding comes to depends on its source only through the bytes that the source gives.
Sources that agree give the same schemas and record batches and fail in the same way
(`agree_readSchema`, `agree_readBatch`).  A schema or a record batch that one source gives
is also given by every source that has all bytes of the first one (`follows_readSchema`,
`follows_readBatch`); so what comes behind a record batch plays no part.  All this is one
induction over decodings, whatever the decoder.
-/

namespace BatchFile

namespace Ipc

open BatchFile.Action

variable {s s' α β : Type}

namespace Decoding

variable {source : Source s} {a b : s}

/-! ### Steps of a decoding -/

theorem run_get_of_ok {n : Nat} {mayEnd : Bool} {next : Bytes → Decoding α} {bytes : Bytes}
    (h : source n a = (.ok bytes, b)) :
  (get n mayEnd next).run source a = (next bytes).run source b
  := by rw [run, bind_apply, outcome_apply, h]

theorem run_get_of_error {n : Nat} {mayEnd : Bool} {next : Bytes → Decoding α} {kind : IoKind}
    (h : source n a = (.error kind, b)) :
  (get n mayEnd next).run source a = (unread mayEnd kind, b)
  := by
  rw [run, bind_apply, outcome_apply, h]
  rfl

/-- Where the data have not ended, bytes that cannot be read are a failure. -/
theorem unread_of_ne {kind : IoKind} (mayEnd : Bool) (h : kind ≠ .unexpectedEof) :
  (unread mayEnd kind : Except Failure (Option α)) = .error (.unreadable kind)
  := by rw [unread, decide_eq_false h, Bool.and_false, if_neg Bool.false_ne_true]

/-- Bytes that cannot be read come to no value. -/
theorem unread_ne_some (mayEnd : Bool) (kind : IoKind) (x : α) :
  unread mayEnd kind ≠ .ok (some x)
  := by
  rw [unread]
  split <;> nofun

/-- A decoding that comes to a value has got all bytes that it has asked for. -/
theorem run_get_eq_some_iff {n : Nat} {mayEnd : Bool} {next : Bytes → Decoding α} {x : α} :
  (get n mayEnd next).run source a = (.ok (some x), b)
    ↔ ∃ bytes a₁, source n a = (.ok bytes, a₁)
      ∧ (next bytes).run source a₁ = (.ok (some x), b)
  := by
  rcases hs : source n a with ⟨kind | bytes, a₁⟩
  · rw [run_get_of_error hs]
    simp [unread_ne_some]
  · rw [run_get_of_ok hs]
    constructor
    · intro h
      exact ⟨bytes, a₁, rfl, h⟩
    · rintro ⟨_, _, ⟨⟩, h⟩
      exact h

/-! ### Sources that agree -/

theorem agree_run {R : s → s' → Prop} {source : Source s} {source' : Source s'}
    (h : ∀ n, Agree R (source n) (source' n)) (d : Decoding α) :
  Agree R (d.run source) (d.run source')
  := by
  induction d with
  | done r => exact fun _ _ hr => ⟨rfl, hr⟩
  | get n mayEnd next ih =>
    rw [run, run]
    apply (h n).outcome.bind
    rintro (kind | bytes)
    · exact fun _ _ hr => ⟨rfl, hr⟩
    · apply ih bytes

end Decoding

/-! ### Sources with all bytes of another -/

/-- From related states, the second source gives whatever bytes the first one gives. -/
def Follows (R : s → s' → Prop) (source : Source s) (source' : Source s') : Prop :=
  ∀ ⦃n a a' bytes b⦄, R a a' → source n a = (.ok bytes, b) →
    ∃ b', source' n a' = (.ok bytes, b') ∧ R b b'

theorem Decoding.follows_run {R : s → s' → Prop} {source : Source s} {source' : Source s'}
    (h : Follows R source source') {d : Decoding α} {a b : s} {a' : s'} (ha : R a a') {x : α}
    (hd : d.run source a = (.ok (some x), b)) :
  ∃ b', d.run source' a' = (.ok (some x), b') ∧ R b b'
  := by
  induction d generalizing a a' with
  | done r =>
    cases hd
    exact ⟨a', rfl, ha⟩
  | get n mayEnd next ih =>
    obtain ⟨bytes, a₁, h1, h2⟩ := run_get_eq_some_iff.mp hd
    obtain ⟨a₁', h1', r1⟩ := h ha h1
    obtain ⟨b', h2', r2⟩ := ih bytes r1 h2
    exact ⟨b', run_get_eq_some_iff.mpr ⟨bytes, a₁', h1', h2'⟩, r2⟩

/-! ### Schemas and record batches -/

section Decoder

variable [Decoder]

theorem readSchema_eq_ok_iff {source : Source s} {a b : s} {schema : Schema} :
  readSchema source a = (.ok schema, b)
    ↔ Decoder.schema.run source a = (.ok (some schema), b)
  := by
  rw [readSchema, bind_eq_ok_iff]
  constructor
  · rintro ⟨_ | x, a₁, h1, h⟩ <;> cases h
    exact h1
  · intro h
    use some schema, b, h
    rfl

section Agree

variable {R : s → s' → Prop} {source : Source s} {source' : Source s'}
  (h : ∀ n, Agree R (source n) (source' n))

include h

theorem agree_readSchema :
  Agree R (readSchema source) (readSchema source')
  := by
  apply (Decoding.agree_run h _).bind
  rintro (_ | schema)
  · apply Agree.fail _
  · apply Agree.pure schema

theorem agree_readBatch (schema : Schema) :
  Agree R (readBatch source schema) (readBatch source' schema)
  := Decoding.agree_run h _

end Agree

section Follows

variable {R : s → s' → Prop} {source : Source s} {source' : Source s'}
  (h : Follows R source source') {a b : s} {a' : s'} (ha : R a a')

include h ha

theorem follows_readSchema {schema : Schema} (hs : readSchema source a = (.ok schema, b)) :
  ∃ b', readSchema source' a' = (.ok schema, b') ∧ R b b'
  := by
  obtain ⟨b', h', r⟩ := Decoding.follows_run h ha (readSchema_eq_ok_iff.mp hs)
  exact ⟨b', readSchema_eq_ok_iff.mpr h', r⟩

theorem follows_readBatch {schema : Schema} {batch : RecordBatch}
    (hb : readBatch source schema a = (.ok (some batch), b)) :
  ∃ b', readBatch source' schema a' = (.ok (some batch), b') ∧ R b b'
  := Decoding.follows_run h ha hb

end Follows

end Decoder

/-! ### Streams in byte strings -/

/-- A byte string gives what a part of it gives that it starts with. -/
theorem follows_append (t : Bytes) :
  Follows (fun a a' => a' = a ++ t) Source.ofBytes Source.ofBytes
  := by
  rintro n a _ bytes b rfl h
  simp only [Source.ofBytes] at h ⊢
  split at h
  · rename_i hn
    cases h
    rw [if_pos (by rw [List.length_append]; omega), List.take_append_of_le_length hn,
      List.drop_append_of_le_length hn]
    use a.drop n ++ t
  · cases h

/-- What comes behind the bytes of a schema plays no part. -/
theorem schemaOf_append [Decoder] {b : Bytes} {schema : Schema} (h : schemaOf b = .ok schema)
    (t : Bytes) :
  schemaOf (b ++ t) = .ok schema
  := by
  obtain ⟨b', h', -⟩ := follows_readSchema (follows_append t) rfl (Prod.ext h rfl)
  rw [schemaOf, h']

/-- There is no schema in no bytes. -/
theorem readSchema_nil_ne_ok [Decoder] (schema : Schema) (b : Bytes) :
  readSchema Source.ofBytes [] ≠ (.ok schema, b)
  := by
  intro h
  obtain ⟨n, mayEnd, next, hg⟩ := Decoder.schema_eq_get
  rw [readSchema_eq_ok_iff, hg] at h
  obtain ⟨bytes, a₁, h1, -⟩ := Decoding.run_get_eq_some_iff.mp h
  simp [Source.ofBytes] at h1

end Ipc

end BatchFile
