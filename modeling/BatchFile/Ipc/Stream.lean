import BatchFile.Ipc.Columns
import BatchFile.Ipc.Decoder

/-!
# Streams of messages

A stream is a sequence of messages: a schema first, then record batches.  Each message is
the length of its metadata, which may have a marker before it, the metadata, and the body.
A length of zero ends the stream, and so does the end of the data where a message could
start.
-/

namespace BatchFile

namespace Ipc

/-- The marker before the length of the metadata. -/
def marker : Bytes := [0xFF, 0xFF, 0xFF, 0xFF]

/-- The length of metadata that four bytes stand for, none if they end the stream. -/
def lengthIn (b : Bytes) : Except Failure (Option Nat) :=
  let length := Bytes.signed 4 (Bytes.toNat b)
  if length = 0 then .ok none
  else if length < 0 then .error .negativeLength
  else .ok (some length.toNat)

/-- The length of the metadata of the next message. -/
def metadataLength : Decoding Nat := do
  let first ← Decoding.bytesOrEnd 4
  if first = marker then
    let second ← Decoding.bytes 4
    .done (lengthIn second)
  else .done (lengthIn first)

/-- The header of the message with the given metadata and the body behind them. -/
def behindMetadata (metadata : Bytes) : Decoding (Header × Bytes) :=
  match Message.ofMetadata? metadata with
  | none => Decoding.fail .malformedMetadata
  | some message =>
    if message.bodyLength < 0 then Decoding.fail .negativeLength
    else do
      let body ← Decoding.bytes message.bodyLength.toNat
      return (message.header, body)

/-- The header and the body of the next message. -/
def nextMessage : Decoding (Header × Bytes) := do
  let length ← metadataLength
  let metadata ← Decoding.bytes length
  behindMetadata metadata

/-- The schema in the next message. -/
def nextSchema : Decoding Schema := do
  match ← nextMessage with
  | (.schema schema, _) => return schema
  | (.unsupportedSchema, _) => Decoding.fail .unsupported
  | _ => Decoding.fail .unexpectedHeader

/-- The record batch of the given schema in the next message. -/
def nextBatch (schema : Schema) : Decoding RecordBatch := do
  match ← nextMessage with
  | (.recordBatch layout, body) =>
    match recordBatch? schema layout body with
    | some batch => return batch
    | none => Decoding.fail .malformedBody
  | (.unsupportedBatch, _) => Decoding.fail .unsupported
  | _ => Decoding.fail .unexpectedHeader

/-- The decoder of streams of messages. -/
instance messages : Decoder where
  schema := nextSchema
  batch := nextBatch
  schema_eq_get := ⟨3, true, _, rfl⟩

end Ipc

end BatchFile
