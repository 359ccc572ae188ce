import BatchFile.ContextError
import BatchFile.ReaderConfig
import BatchFile.Storage.Files
import BatchFile.Text.Utf8

/-!
# Configuration files
-/

namespace BatchFile

namespace ReaderConfig

/-- The configuration that a JSON text stands for. -/
def parse (text : Bytes) : Except ContextError ReaderConfig :=
  during "parse reader config" .json (ofJson text)

/-- The text in a file. -/
def readText {σ : Type} [Files σ] (path : Path) (s : σ) : Except IoKind Bytes := do
  let bytes ← Files.contents path s
  if Utf8.isValid bytes then return bytes else throw .invalidData

/-- The configuration in the file at a path. -/
def ofFile {σ : Type} [Files σ] (path : Path) (s : σ) : Except ContextError ReaderConfig := do
  let text ← during ("read " ++ path) .io (readText path s)
  within ("in " ++ path) (parse text)

end ReaderConfig

end BatchFile
