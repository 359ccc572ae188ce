import BatchFile.Bytes

/-!
# UTF-8

`Utf8.pieces` cuts a byte string into characters and ill-formed parts.  An ill-formed part
is as long as it can be while it still starts a well-formed sequence, and at least one byte
long.  A byte string is valid when it has no ill-formed part; `Utf8.decode?` gives its
characters then, and `Utf8.lossy` writes the replacement character for each such part.
-/

namespace BatchFile

namespace Utf8

/-- What a decoder holds between two bytes: nothing, or the beginning of a character, its
bits so far, the number of bytes after the next one, and the range of the next byte. -/
inductive State where
  | ground
  | partway (bits : Nat) (more : Nat) (low high : UInt8)

/-- A piece of a byte string: a character or an ill-formed part. -/
inductive Piece where
  | char (c : Char)
  | illFormed
deriving DecidableEq

/-- What a byte means at the start of a character. -/
def start (b : UInt8) : List Piece × State :=
  if b < 0x80 then ([.char (Char.ofNat b.toNat)], .ground)
  else if b < 0xC2 then ([.illFormed], .ground)
  else if b < 0xE0 then ([], .partway (b.toNat - 0xC0) 0 0x80 0xBF)
  else if b = 0xE0 then ([], .partway 0 1 0xA0 0xBF)
  else if b = 0xED then ([], .partway 0xD 1 0x80 0x9F)
  else if b < 0xF0 then ([], .partway (b.toNat - 0xE0) 1 0x80 0xBF)
  else if b = 0xF0 then ([], .partway 0 2 0x90 0xBF)
  else if b < 0xF4 then ([], .partway (b.toNat - 0xF0) 2 0x80 0xBF)
  else if b = 0xF4 then ([], .partway 4 2 0x80 0x8F)
  else ([.illFormed], .ground)

/-- What a byte means after what the decoder holds: the pieces it completes and what is
held next. -/
def step : State → UInt8 → List Piece × State
  | .ground, b => start b
  | .partway bits more low high, b =>
    if low ≤ b ∧ b ≤ high then
      let bits := bits * 64 + (b.toNat - 0x80)
      match more with
      | 0 => ([.char (Char.ofNat bits)], .ground)
      | more + 1 => ([], .partway bits more 0x80 0xBF)
    else
      (.illFormed :: (start b).1, (start b).2)

/-- The pieces of a byte string, for a decoder that holds something already. -/
def piecesFrom : State → Bytes → List Piece
  | .ground, [] => []
  | .partway .., [] => [.illFormed]
  | s, b :: r => (step s b).1 ++ piecesFrom (step s b).2 r

/-- The characters and ill-formed parts of a byte string, in order. -/
def pieces (b : Bytes) : List Piece :=
  piecesFrom .ground b

/-- The character a piece is shown as. -/
def Piece.shown : Piece → Char
  | .char c => c
  | .illFormed => '\uFFFD'

/-- The character of a piece, if it is one. -/
def Piece.char? : Piece → Option Char
  | .char c => some c
  | .illFormed => none

/-- The characters of a byte string, with the replacement character for each ill-formed
part. -/
def lossy (b : Bytes) : List Char :=
  (pieces b).map Piece.shown

/-- The characters of a valid byte string. -/
def decode? (b : Bytes) : Option (List Char) :=
  (pieces b).mapM Piece.char?

/-- The text of a valid byte string. -/
def text? (b : Bytes) : Option String :=
  (decode? b).map String.ofList

/-- Whether a byte string is valid. -/
def isValid (b : Bytes) : Bool :=
  (pieces b).all fun p => p ≠ .illFormed

/-- The bytes of a text. -/
def encode (s : String) : Bytes :=
  s.toList.flatMap String.utf8EncodeChar

/-- Whether a character starts at the start of a part of a valid byte string that reaches to
its end, or the part is empty. -/
def isBoundary : Bytes → Bool
  | [] => true
  | b :: _ => b < 0x80 || 0xC0 ≤ b

/-- Whether a valid byte string is cut between two characters after each of the pieces of the
given lengths that it starts with. -/
def cutsBetween : List Nat → Bytes → Bool
  | [], _ => true
  | n :: ns, b => isBoundary (b.drop n) && cutsBetween ns (b.drop n)

end Utf8

end BatchFile
