import BatchFile.Json.Decoder
import BatchFile.Json.Writer

/-!
# Reader configuration

A configuration says what a reader checks.  As JSON it is an object in which every member
may be missing.
-/

namespace BatchFile

/-- What a reader checks. -/
structure ReaderConfig where
  /-- Check size, trailing magic word and footer offset when the file is opened. -/
  validateFraming : Bool
  /-- Check that every decoded batch has as many rows as the footer says. -/
  verifyRowCounts : Bool
deriving DecidableEq, Repr

namespace ReaderConfig

/-- The configuration of a reader that is given none. -/
def standard : ReaderConfig := ⟨false, true⟩

/-- The configuration with the framing check on or off. -/
def withFramingValidation (c : ReaderConfig) (enabled : Bool) : ReaderConfig :=
  { c with validateFraming := enabled }

/-- The members of a configuration and their defaults. -/
def members : List (Json.Member Bool) :=
  [⟨"validate_framing", some standard.validateFraming⟩,
    ⟨"verify_batch_row_counts", some standard.verifyRowCounts⟩]

/-- The configuration with the given values of its members. -/
def ofMembers (values : List Bool) : ReaderConfig :=
  ⟨values.getD 0 standard.validateFraming, values.getD 1 standard.verifyRowCounts⟩

/-- The compact text of a configuration. -/
def toJson (c : ReaderConfig) : Bytes :=
  Json.writeObject
    [("validate_framing", Json.writeBool c.validateFraming),
      ("verify_batch_row_counts", Json.writeBool c.verifyRowCounts)]

/-- The decoder of configurations. -/
def decoder : Json.Decoder ReaderConfig :=
  (Json.record Json.bool members).map ofMembers

/-- The configuration that a text stands for. -/
def ofJson (text : Bytes) : Except Json.Fault ReaderConfig :=
  Json.parse decoder text

end ReaderConfig

end BatchFile
