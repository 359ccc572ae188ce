import BatchFile.Ipc.Stream
import BatchFile.Proofs.Ipc.Extent

/-!
# The extents of messages

A message takes up its front, which is the length of its metadata and the marker there may be
before it, its metadata and its body (`Ipc.messageSize`).  So a batch that is found in a stream of
messages ends with the second message from its offset on (`batchEnd_eq_messages`).
-/

namespace BatchFile

namespace Ipc

/-! ### The parts of a message -/

/-- The number of bytes before the metadata of a message. -/
def frontSize (b : Bytes) : Nat := if b.take 4 = marker then 8 else 4

/-- The length that a message states for its metadata, if it is one. -/
def statedLength (b : Bytes) : Except Failure (Option Nat) :=
  lengthIn ((b.drop (frontSize b - 4)).take 4)

/-- The number of bytes of the metadata of a message. -/
def metadataSize (b : Bytes) : Nat := ((statedLength b).toOption.bind id).getD 0

/-- What the metadata of a message say, if they are well formed. -/
def message? (b : Bytes) : Option Message :=
  Message.ofMetadata? ((b.drop (frontSize b)).take (metadataSize b))

/-- The number of bytes of the body of a message. -/
def bodySize (b : Bytes) : Nat := ((message? b).map fun m => m.bodyLength.toNat).getD 0

/-- The number of bytes of the first message. -/
def messageSize (b : Bytes) : Nat := frontSize b + metadataSize b + bodySize b

/-! ### What the decodings of messages ask for -/

theorem extent_metadataLength (b : Bytes) :
  metadataLength.extent b = frontSize b ∧ metadataLength.outcomeIn b = statedLength b
  := by
  rw [statedLength, frontSize]
  simp only [metadataLength, bind, Decoding.bytesOrEnd, Decoding.bytes, Decoding.value,
    Decoding.andThen, Decoding.extent, Decoding.outcomeIn]
  split <;> exact ⟨rfl, rfl⟩

theorem extent_behindMetadata {metadata b : Bytes} {x : Header × Bytes}
    (h : (behindMetadata metadata).outcomeIn b = .ok (some x)) :
  ∃ message, Message.ofMetadata? metadata = some message
    ∧ (behindMetadata metadata).extent b = message.bodyLength.toNat
  := by
  rw [behindMetadata] at h ⊢
  cases hm : Message.ofMetadata? metadata with
  | none =>
    rw [hm] at h
    cases h
  | some message =>
    rw [hm] at h
    simp only at h ⊢
    split at h
    · cases h
    · rename_i hl
      use message, rfl
      rw [if_neg hl]
      rfl

/-- A message that is found has been decoded from all its bytes. -/
theorem extent_nextMessage {b : Bytes} {x : Header × Bytes}
    (h : nextMessage.outcomeIn b = .ok (some x)) :
  nextMessage.extent b = messageSize b
  := by
  obtain ⟨he, hs⟩ := extent_metadataLength b
  rw [show nextMessage = metadataLength.andThen fun n => .get n false behindMetadata from rfl]
    at h ⊢
  obtain ⟨n, hn, h⟩ := Decoding.outcomeIn_andThen_eq_some_iff.mp h
  obtain ⟨message, hm, hb⟩ := extent_behindMetadata h
  have hd : metadataSize b = n := by rw [metadataSize, ← hs, hn]; rfl
  rw [he, ← hd] at hm
  rw [Decoding.extent_andThen_of_some hn, Decoding.extent, hb, messageSize, bodySize, message?, hm,
    he, hd, Nat.add_assoc]
  rfl

theorem extent_nextSchema {b : Bytes} {schema : Schema}
    (h : nextSchema.outcomeIn b = .ok (some schema)) :
  nextSchema.extent b = messageSize b
  := by
  rw [show nextSchema = nextMessage.andThen _ from rfl] at h ⊢
  obtain ⟨⟨header, body⟩, hm, h⟩ := Decoding.outcomeIn_andThen_eq_some_iff.mp h
  rw [Decoding.extent_andThen_of_some hm, extent_nextMessage hm]
  cases header <;> rfl

theorem extent_nextBatch {schema : Schema} {b : Bytes} {batch : RecordBatch}
    (h : (nextBatch schema).outcomeIn b = .ok (some batch)) :
  (nextBatch schema).extent b = messageSize b
  := by
  rw [show nextBatch schema = nextMessage.andThen _ from rfl] at h ⊢
  obtain ⟨⟨header, body⟩, hm, h⟩ := Decoding.outcomeIn_andThen_eq_some_iff.mp h
  rw [Decoding.extent_andThen_of_some hm, extent_nextMessage hm]
  cases header with
  | recordBatch layout =>
    simp only
    cases recordBatch? schema layout body <;> rfl
  | _ => rfl

end Ipc

/-- A batch that is found in a stream of messages ends with the second of them. -/
theorem batchEnd_eq_messages {c : Bytes} {offset : UInt64} {batch : RecordBatch}
    (h : batchIn c offset = .ok batch) :
  batchEnd c offset
    = offset.toNat + Ipc.messageSize (c.drop offset.toNat)
      + Ipc.messageSize (c.drop (offset.toNat + Ipc.messageSize (c.drop offset.toNat)))
  := by
  obtain ⟨b, hb⟩ := batchIn_eq_ok_iff.mp h
  obtain ⟨schema, a, h1, h2⟩ := Ipc.firstBatch_eq_ok_iff.mp hb
  obtain ⟨hs, rfl⟩ := Ipc.Decoding.outcomeIn_of_run (Ipc.readSchema_eq_ok_iff.mp h1)
  have hn := (Ipc.Decoding.outcomeIn_of_run h2).1
  rw [batchEnd, Ipc.batchSize, Ipc.batchDecoding, Ipc.Decoding.extent_andThen_of_some hs]
  have he : Ipc.Decoder.schema.extent (c.drop offset.toNat)
      = Ipc.messageSize (c.drop offset.toNat) := Ipc.extent_nextSchema hs
  rw [he] at hn ⊢
  rw [show (Ipc.Decoder.batch schema).extent _ = _ from Ipc.extent_nextBatch hn, List.drop_drop,
    Nat.add_assoc]

end BatchFile
