import BatchFile.Reader.Basic

/-!
# Reading several ranges

Each range is read by a reader of its own, which is closed afterwards, so the ranges share
nothing but the storage.  All ranges are read, whatever becomes of the others.  If a read
panics, so does the whole; otherwise the whole fails with the error of the first range whose
read has failed, if there is one.
-/

namespace BatchFile

namespace Reader

variable {σ τ : Type} [Storage σ τ] [Ipc.Decoder]

/-- The windows of one range, read by a reader of its own. -/
def readOnce (base : Path) (metadata : FileMetadata) (config : ReaderConfig)
    (range : RowRange) : Action σ (Failure Error) (List Window) := fun s =>
  match read range (new base metadata config, s) with
  | (r, (reader, s)) => (r, (close reader s).2)

/-- What several ranges give, from what the first of them and the others give. -/
def together (first : Except (Failure Error) (List Window))
    (others : Except (Failure Error) (List (List Window))) :
    Except (Failure Error) (List (List Window)) :=
  match first, others with
  | .error (.panicked p), _ => .error (.panicked p)
  | _, .error (.panicked p) => .error (.panicked p)
  | .error e, _ => .error e
  | .ok _, .error e => .error e
  | .ok windows, .ok rest => .ok (windows :: rest)

/-- The windows of each range. -/
def readRanges (base : Path) (metadata : FileMetadata) (config : ReaderConfig) :
    List RowRange → Action σ (Failure Error) (List (List Window))
  | [] => .ok []
  | range :: ranges => fun s =>
    match readOnce base metadata config range s with
    | (first, s) =>
      match readRanges base metadata config ranges s with
      | (others, s) => (together first others, s)

end Reader

end BatchFile
