import BatchFile.Layout
import BatchFile.Storage.Edit
import BatchFile.Word

/-!
# Damaging files

Edits that damage a file: bytes from a position on, the trailing magic word, the footer
offset in the trailer, or everything behind a length.  An edit whose position does not exist
fails.
-/

namespace BatchFile

namespace Damage

/-- Puts bytes at a position from the start; the position where they end must be a signed
word too. -/
def overwrite (position : UInt64) (bytes : Bytes) : FileEdit := fun _ =>
  if position.toNat + bytes.length < UInt64.size / 2 then .ok (.put position.toNat bytes)
  else .error .invalidInput

/-- Puts bytes where `distance` bytes are left. -/
def overwriteEnd (distance : Nat) (bytes : Bytes) : FileEdit := fun length =>
  if distance ≤ length then .ok (.put (length - distance) bytes) else .error .invalidInput

/-- Replaces the trailing magic word. -/
def corruptMagic : FileEdit :=
  overwriteEnd Layout.magicLength.toNat (List.replicate Layout.magicLength.toNat 0x58)

/-- Replaces the footer offset in the trailer. -/
def setFooterOffset (footerOffset : UInt64) : FileEdit :=
  overwriteEnd Layout.trailerSize.toNat (Bytes.ofWord footerOffset)

/-- Cuts a file down, or fills it up with zeros, to a length. -/
def truncate (length : UInt64) : FileEdit := fun _ =>
  if Word.isSigned length then .ok (.resize length.toNat) else .error .invalidInput

end Damage

end BatchFile
