import BatchFile.Bytes

/-!
# Writing JSON

Texts of words, truth values, lists and objects.  The compact form has no white space; the
spread form has one member of an object on each line, indented by two spaces.  Names of
members need no escapes here.
-/

namespace BatchFile

namespace Json

/-- The decimal digits of a number. -/
def decimal (n : Nat) : Bytes :=
  if n < 10 then [UInt8.ofNat (0x30 + n)]
  else decimal (n / 10) ++ [UInt8.ofNat (0x30 + n % 10)]

/-- The text of a word. -/
def writeWord (n : UInt64) : Bytes :=
  decimal n.toNat

/-- The text of a truth value. -/
def writeBool (b : Bool) : Bytes :=
  Bytes.ascii (if b then "true" else "false")

/-- The texts with the separator between any two of them. -/
def separated (separator : Bytes) : List Bytes → Bytes
  | [] => []
  | [t] => t
  | t :: ts => t ++ separator ++ separated separator ts

/-- The name of a member between quotation marks. -/
def writeName (name : String) : Bytes :=
  0x22 :: Bytes.ascii name ++ [0x22]

/-- The compact text of a list. -/
def writeList (elements : List Bytes) : Bytes :=
  0x5B :: separated [0x2C] elements ++ [0x5D]

/-- The compact text of an object. -/
def writeObject (members : List (String × Bytes)) : Bytes :=
  0x7B :: separated [0x2C] (members.map fun m => writeName m.1 ++ 0x3A :: m.2) ++ [0x7D]

/-- The spread text of an object with at least one member. -/
def writeObjectSpread (members : List (String × Bytes)) : Bytes :=
  0x7B :: 0x0A
    :: separated [0x2C, 0x0A]
      (members.map fun m => 0x20 :: 0x20 :: writeName m.1 ++ 0x3A :: 0x20 :: m.2)
    ++ [0x0A, 0x7D]

end Json

end BatchFile
