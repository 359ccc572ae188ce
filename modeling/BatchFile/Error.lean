import BatchFile.Ipc.Decoder
import BatchFile.Panic
import BatchFile.Text.Quoted
import BatchFile.Text.Utf8
import BatchFile.Varint
import BatchFile.Window.RowType

/-!
# Errors

What can go wrong when a batch file is read, split by who has to act on it: the caller, the
writer of the file, or whoever keeps the storage running.  A wording has a heading, and a
detail where the cause lies in an encoding or in the storage.
-/

namespace BatchFile

/-- What is wrong with the bytes of a file. -/
inductive Defect where
  /-- The file has no room for both magic words and the footer offset. -/
  | tooSmall (size minimum : UInt64)
  /-- The file does not end in the magic word. -/
  | wrongMagic (found : Bytes)
  /-- The footer offset does not lie between the leading magic word and the trailer. -/
  | footerOffset (footerOffset size : UInt64)
  /-- The footer is not in wire form. -/
  | malformedFooter (cause : WireError)
  /-- The schema in the footer is not the start of a stream. -/
  | malformedFooterSchema (cause : Ipc.Failure)
  /-- The row counts of the footer add up to more than a word. -/
  | countsTooLarge
  /-- The row counts of the footer up to a batch add up to more than a word. -/
  | countsTooLargeAt (offset : UInt64)
  /-- No stream starts at the offset of a batch. -/
  | noStream (offset : UInt64) (cause : Ipc.Failure)
  /-- The stream at the offset of a batch goes on with something else than a batch. -/
  | malformedBatch (offset : UInt64) (cause : Ipc.Failure)
  /-- The stream at the offset of a batch ends after its schema. -/
  | noBatch (offset : UInt64)
  /-- A batch has another number of rows than the footer says. -/
  | rowCount (offset : UInt64) (rows : Nat) (recorded : UInt64)
  /-- A batch does not have the rows that are wanted from it. -/
  | missingBatchRows (offset : UInt64) (start stop : Nat)
  /-- The batches of the footer end before the rows that are wanted. -/
  | missingRows (covered remaining limit start : UInt64)
deriving DecidableEq, Repr

namespace Defect

/-- The wording of a defect without its detail. -/
def heading : Defect → String
  | tooSmall size minimum =>
    "file is too small to be a batch file (" ++ toString size ++ " bytes, need at least "
      ++ toString minimum ++ ")"
  | wrongMagic found =>
    "invalid magic word " ++ Text.quoted (Utf8.lossy found) ++ ", file is not a batch file"
  | footerOffset offset size =>
    "invalid footer offset " ++ toString offset ++ " for file of " ++ toString size ++ " bytes"
  | malformedFooter cause => "malformed footer: " ++ cause.message
  | malformedFooterSchema _ => "malformed footer schema: "
  | countsTooLarge => "footer record counts overflow u64"
  | countsTooLargeAt offset =>
    "footer record counts overflow u64 at batch offset " ++ toString offset
  | noStream offset _ => "batch at offset " ++ toString offset ++ ": "
  | malformedBatch offset _ => "decode batch at offset " ++ toString offset ++ ": "
  | noBatch offset => "no record batch at offset " ++ toString offset
  | rowCount offset rows recorded =>
    "batch at offset " ++ toString offset ++ " has " ++ toString rows ++ " rows, footer records "
      ++ toString recorded
  | missingBatchRows offset start stop =>
    "batch at offset " ++ toString offset ++ " cannot hold rows [" ++ toString start ++ ", "
      ++ toString stop ++ ")"
  | missingRows covered remaining limit start =>
    "footer covers " ++ toString covered ++ " rows, " ++ toString remaining
      ++ " of the requested " ++ toString limit ++ " rows from " ++ toString start
      ++ " are missing"

/-- The detail of a defect. -/
def detail? : Defect → Option String
  | malformedFooterSchema cause => some cause.message
  | noStream _ cause => some cause.message
  | malformedBatch _ cause => some cause.message
  | _ => none

end Defect

/-- Why rows cannot be read. -/
inductive Error where
  /-- The start does not lie in the file. -/
  | invalidStart (start recordCount : UInt64)
  /-- The rows from the start on are fewer than asked for. -/
  | invalidRange (start limit recordCount : UInt64)
  /-- The bytes of the file at a path are not as they should be. -/
  | dataFormat (path : Path) (defect : Defect)
  /-- The storage has failed. -/
  | io (path : Path) (kind : IoKind)
  /-- The reader has been closed. -/
  | closed (path : Path)
  /-- Rows cannot be converted to the wanted type. -/
  | rows (cause : RowError)
deriving DecidableEq, Repr

namespace Error

/-- Whether the bytes of the file are to blame. -/
def isDataFormat : Error → Bool
  | dataFormat _ _ => true
  | _ => false

/-- Whether the arguments of the caller are to blame. -/
def isInvalidArgument : Error → Bool
  | invalidStart _ _ => true
  | invalidRange _ _ _ => true
  | _ => false

/-- The wording of an error without its detail. -/
def heading : Error → String
  | invalidStart start recordCount =>
    "invalid argument: invalid start index (" ++ toString start ++ "), record count in file ("
      ++ toString recordCount ++ ")"
  | invalidRange start limit recordCount =>
    "invalid argument: invalid start index (" ++ toString start ++ ") and limit ("
      ++ toString limit ++ ") combination, record count in file (" ++ toString recordCount ++ ")"
  | dataFormat path defect => "data format error in " ++ path ++ ": " ++ defect.heading
  | io path _ => "I/O error on " ++ path ++ ": "
  | closed path => "reader for " ++ path ++ " is closed"
  | rows _ => "row conversion failed: "

/-- The detail of an error. -/
def detail? : Error → Option String
  | dataFormat _ defect => defect.detail?
  | io _ kind => some kind.name
  | rows (.missingColumn name) => some ("there is no column " ++ name)
  | rows (.ambiguousColumn name) => some ("there are several columns " ++ name)
  | rows (.unacceptable name) => some ("a value of column " ++ name ++ " is not accepted")
  | _ => none

/-- The wording of an error. -/
def message (e : Error) : String :=
  e.heading ++ e.detail?.getD ""

end Error

/-! ### Failures -/

namespace Failure

/-- The start does not lie in the file. -/
@[match_pattern]
abbrev invalidStart (start recordCount : UInt64) : Failure Error :=
  .returned (.invalidStart start recordCount)

/-- The rows from the start on are fewer than asked for. -/
@[match_pattern]
abbrev invalidRange (start limit recordCount : UInt64) : Failure Error :=
  .returned (.invalidRange start limit recordCount)

/-- The bytes of the file at a path are not as they should be. -/
@[match_pattern]
abbrev dataFormat (path : Path) (defect : Defect) : Failure Error :=
  .returned (.dataFormat path defect)

/-- The storage has failed. -/
@[match_pattern]
abbrev io (path : Path) (kind : IoKind) : Failure Error :=
  .returned (.io path kind)

/-- The reader has been closed. -/
@[match_pattern]
abbrev closed (path : Path) : Failure Error :=
  .returned (.closed path)

/-- Rows cannot be converted to the wanted type. -/
@[match_pattern]
abbrev rows (cause : RowError) : Failure Error :=
  .returned (.rows cause)

/-- Whether an error is returned that blames the bytes of the file. -/
def isDataFormat : Failure Error → Bool
  | returned e => e.isDataFormat
  | panicked _ => false

/-- Whether an error is returned that blames the arguments of the caller. -/
def isInvalidArgument : Failure Error → Bool
  | returned e => e.isInvalidArgument
  | panicked _ => false

end Failure

end BatchFile
