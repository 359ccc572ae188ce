/-!
# Schemas

A schema lists the fields of a table, each with a name, a type and whether it may hold
nulls, and carries texts under texts as metadata.
-/

namespace BatchFile

/-- The width of an integer. -/
inductive Width where
  | w8
  | w16
  | w32
  | w64
deriving DecidableEq, Repr

/-- The number of bytes of an integer. -/
def Width.bytes : Width → Nat
  | .w8 => 1
  | .w16 => 2
  | .w32 => 4
  | .w64 => 8

/-- The width of integers with the given number of bits. -/
def Width.ofBits? : Nat → Option Width
  | 8 => some .w8
  | 16 => some .w16
  | 32 => some .w32
  | 64 => some .w64
  | _ => none

/-- The type of a column. -/
inductive DataType where
  | null
  | boolean
  | integer (signed : Bool) (width : Width)
  | float32
  | float64
  | utf8
  | largeUtf8
  | binary
  /-- Any other type, by its description. -/
  | other (description : String)
deriving DecidableEq, Repr

/-- The types that have a name. -/
def DataType.all : List DataType :=
  [.null, .boolean,
    .integer true .w8, .integer true .w16, .integer true .w32, .integer true .w64,
    .integer false .w8, .integer false .w16, .integer false .w32, .integer false .w64,
    .float32, .float64, .utf8, .largeUtf8, .binary]

/-- The name of a type. -/
def DataType.name : DataType → String
  | .null => "Null"
  | .boolean => "Boolean"
  | .integer signed width => (if signed then "Int" else "UInt") ++ toString (8 * width.bytes)
  | .float32 => "Float32"
  | .float64 => "Float64"
  | .utf8 => "Utf8"
  | .largeUtf8 => "LargeUtf8"
  | .binary => "Binary"
  | .other description => description

/-- The type with the given name. -/
def DataType.ofName? (name : String) : Option DataType :=
  DataType.all.find? fun t => t.name = name

/-- A field of a schema. -/
structure Field where
  name : String
  type : DataType
  /-- Whether the field may hold nulls. -/
  nullable : Bool
deriving DecidableEq, Repr

/-- The fields of a table and its metadata. -/
structure Schema where
  fields : List Field
  metadata : List (String × String)
deriving DecidableEq, Repr

namespace Schema

/-- The metadata with the text `value` under `key`, in place of what was there. -/
def putMetadata (metadata : List (String × String)) (key value : String) :
    List (String × String) :=
  match metadata with
  | [] => [(key, value)]
  | (k, v) :: rest =>
    if k = key then (key, value) :: rest else (k, v) :: putMetadata rest key value

/-- The position of the first field with the given name. -/
def indexOf? (s : Schema) (name : String) : Option Nat :=
  s.fields.findIdx? fun f => f.name = name

end Schema

end BatchFile
