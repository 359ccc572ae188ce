import BatchFile.Column.Batch
import BatchFile.Storage.Basic

/-!
# Decoders of streams

A stream starts with a schema, and record batches come after it.  What its bytes stand for is up
to a `Decoder`.  A decoder decodes a schema, and then a record batch, by asking for bytes; what it
asks for next depends on nothing but the bytes that it has been given (`Decoding`).  If they
cannot be read, the decoding fails, or the stream ends there.

The bytes come from a `Source`: an action that gets the next bytes, exactly as many as asked for.
So the same decoding serves an open stream of a storage and a byte string in memory.  Nothing
after the first record batch is read.
-/

namespace BatchFile

namespace Ipc

/-- Why bytes are not the stream of a schema or of a record batch. -/
inductive Failure where
  /-- The bytes could not be read. -/
  | unreadable (kind : IoKind)
  /-- A length is negative. -/
  | negativeLength
  /-- The metadata of a message is malformed. -/
  | malformedMetadata
  /-- The stream ends before its schema. -/
  | missingSchema
  /-- A message has another header than the one that must come. -/
  | unexpectedHeader
  /-- The contents of a message are of a kind that is not supported. -/
  | unsupported
  /-- The body of a message does not hold the columns that its metadata describes. -/
  | malformedBody
deriving DecidableEq, Repr

/-- The wording of a failure. -/
def Failure.message : Failure → String
  | unreadable _ => "the data cannot be read"
  | negativeLength => "a length is negative"
  | malformedMetadata => "the metadata of a message is malformed"
  | missingSchema => "the stream ends before its schema"
  | unexpectedHeader => "a message of another kind was expected"
  | unsupported => "the contents are not supported"
  | malformedBody => "the body does not hold the columns that the metadata describes"

/-! ### Sources -/

/-- Gets the next bytes, exactly as many as asked for. -/
abbrev Source (s : Type) := Nat → Action s IoKind Bytes

/-- The rest of a byte string as a source. -/
def Source.ofBytes : Source Bytes := fun n b =>
  if n ≤ b.length then (.ok (b.take n), b.drop n) else (.error .unexpectedEof, [])

/-! ### Decodings -/

/-- A decoding of a stream into an `α`. -/
inductive Decoding (α : Type) where
  /-- Comes to a value, or to none because the stream has ended, or fails. -/
  | done (outcome : Except Failure (Option α))
  /-- Asks for bytes and goes on with them.  If the data end before, then the stream may have
  ended. -/
  | get (n : Nat) (mayEnd : Bool) (next : Bytes → Decoding α)

namespace Decoding

variable {s α β : Type}

/-- The decoding that comes to a value. -/
def value (a : α) : Decoding α := done (.ok (some a))

/-- The decoding that finds the stream at its end. -/
def ended : Decoding α := done (.ok none)

/-- The decoding that fails. -/
def fail (e : Failure) : Decoding α := done (.error e)

/-- One decoding after another, which goes on with the value of the first. -/
def andThen (d : Decoding α) (f : α → Decoding β) : Decoding β :=
  match d with
  | done (.ok (some a)) => f a
  | done (.ok none) => ended
  | done (.error e) => fail e
  | get n mayEnd next => get n mayEnd fun bytes => (next bytes).andThen f

instance : Monad Decoding where
  pure := value
  bind := andThen

/-- The next bytes. -/
def bytes (n : Nat) : Decoding Bytes := get n false value

/-- The next bytes, unless the stream ends before them. -/
def bytesOrEnd (n : Nat) : Decoding Bytes := get n true value

/-- What bytes come to that cannot be read. -/
def unread (mayEnd : Bool) (kind : IoKind) : Except Failure (Option α) :=
  if mayEnd && kind = .unexpectedEof then .ok none else .error (.unreadable kind)

/-- A decoding of the bytes of a source. -/
def run (source : Source s) : Decoding α → Action s Failure (Option α)
  | done outcome => .ofExcept outcome
  | get n mayEnd next => do
    match ← (source n).outcome with
    | .ok bytes => (next bytes).run source
    | .error kind => .ofExcept (unread mayEnd kind)

end Decoding

/-! ### Decoders -/

/-- What the bytes of streams stand for. -/
class Decoder where
  /-- The schema that a stream starts with. -/
  schema : Decoding Schema
  /-- The record batch that comes next in a stream with the given schema. -/
  batch : Schema → Decoding RecordBatch
  /-- There is no schema without bytes. -/
  schema_eq_get : ∃ n mayEnd next, schema = .get (n + 1) mayEnd next

variable {s : Type} [Decoder]

/-- The schema that a stream starts with. -/
def readSchema (source : Source s) : Action s Failure Schema := do
  match ← Decoder.schema.run source with
  | some schema => return schema
  | none => Action.fail .missingSchema

/-- The record batch that comes next in a stream with the given schema, or none at the end
of the stream. -/
def readBatch (source : Source s) (schema : Schema) :
    Action s Failure (Option RecordBatch) :=
  (Decoder.batch schema).run source

/-- The schema at the start of a byte string. -/
def schemaOf (b : Bytes) : Except Failure Schema :=
  (readSchema Source.ofBytes b).1

end Ipc

end BatchFile
