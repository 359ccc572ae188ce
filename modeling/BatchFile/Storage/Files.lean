import BatchFile.Bytes
import BatchFile.Path
import BatchFile.Storage.Edit

/-!
# Files that can be changed

What writers of fixtures need of a place for files: to read and to replace whole contents,
to edit and to remove files and to create directories.
-/

namespace BatchFile

/-- A place for files with states `σ`. -/
class Files (σ : Type) where
  /-- The contents of the file at a path. -/
  contents : Path → σ → Except IoKind Bytes
  /-- Puts contents into the file at a path, which is created if it is not there. -/
  write : Path → Bytes → σ → Except IoKind σ
  /-- Edits the file at a path. -/
  edit : Path → FileEdit → σ → Except IoKind σ
  /-- Removes the file at a path. -/
  remove : Path → σ → Except IoKind σ
  /-- Creates the directory at a path and those it lies in, as far as they are not there;
  what has been created before a failure stays. -/
  createDirectories : Path → σ → Except IoKind Unit × σ

end BatchFile
