import BatchFile.Path

/-!
# Events

What a reader reports about its work.  Each event has a level, a message and named fields.
-/

namespace BatchFile

/-- How important an event is. -/
inductive EventLevel where
  | debug
  | warning
deriving DecidableEq, Repr

/-- The value of a field of an event. -/
inductive EventValue where
  | text (s : String)
  | number (n : UInt64)
  | flag (b : Bool)
deriving DecidableEq, Repr

/-- Something worth reporting about the file at a path. -/
inductive Event where
  | opening (path : Path) (validateFraming : Bool)
  | rangeRead (path : Path) (start limit windows decoded skipped : UInt64)
  | footerSchemaRead (path : Path)
  | closed (path : Path)
  | loaded (path : Path) (batches records : UInt64)
  | magicMismatch (path : Path)
  | fileTooSmall (path : Path) (size : UInt64)
  | footerOffsetOutOfBounds (path : Path) (footerOffset size : UInt64)
deriving DecidableEq, Repr

namespace Event

/-- The level of an event. -/
def level : Event → EventLevel
  | magicMismatch _ => .warning
  | fileTooSmall _ _ => .warning
  | footerOffsetOutOfBounds _ _ _ => .warning
  | _ => .debug

/-- The message of an event. -/
def message : Event → String
  | opening _ _ => "opening batch file"
  | rangeRead .. => "read row range"
  | footerSchemaRead _ => "schema for empty result read from footer"
  | closed _ => "closed batch file"
  | loaded _ _ _ => "loaded batch file metadata"
  | magicMismatch _ => "trailing magic word mismatch"
  | fileTooSmall _ _ => "file too small for a batch file"
  | footerOffsetOutOfBounds _ _ _ => "footer offset out of bounds"

/-- The fields of an event. -/
def fields : Event → List (String × EventValue)
  | opening path validate => [("path", .text path), ("validate_framing", .flag validate)]
  | rangeRead path start limit windows decoded skipped =>
    [("path", .text path), ("start", .number start), ("limit", .number limit),
      ("windows", .number windows), ("decoded", .number decoded), ("skipped", .number skipped)]
  | footerSchemaRead path => [("path", .text path)]
  | closed path => [("path", .text path)]
  | loaded path batches records =>
    [("path", .text path), ("batches", .number batches), ("records", .number records)]
  | magicMismatch path => [("path", .text path)]
  | fileTooSmall path size => [("path", .text path), ("size", .number size)]
  | footerOffsetOutOfBounds path footerOffset size =>
    [("path", .text path), ("footer_offset", .number footerOffset), ("size", .number size)]

end Event

end BatchFile
