import BatchFile.Bytes

/-!
# The layout of a batch file

A batch file is

  magic word, batches, footer, footer offset, magic word

where the batches are encoded streams laid end to end, the footer offset is eight bytes
wide, and the last two parts are the trailer.
-/

namespace BatchFile

namespace Layout

/-- The word at both ends of a batch file. -/
def magic : Bytes := Bytes.ascii "IRONBATCH1"

/-- The length of the magic word. -/
def magicLength : UInt64 := 10

/-- The width of the footer offset. -/
def footerOffsetSize : UInt64 := 8

/-- The length of the trailer: the footer offset and the magic word. -/
def trailerSize : UInt64 := magicLength + footerOffsetSize

/-- The length of the shortest file that has room for both magic words and the footer
offset. -/
def minFileSize : UInt64 := 2 * magicLength + footerOffsetSize

theorem length_magic :
  magic.length = magicLength.toNat
  := by decide

end Layout

end BatchFile
