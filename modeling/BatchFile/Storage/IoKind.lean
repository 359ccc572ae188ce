/-!
# Kinds of input and output errors
-/

namespace BatchFile

/-- The kind of an input or output error. -/
inductive IoKind where
  | notFound
  | permissionDenied
  | connectionRefused
  | connectionReset
  | connectionAborted
  | notConnected
  | brokenPipe
  | alreadyExists
  | wouldBlock
  | notADirectory
  | isADirectory
  | invalidInput
  | invalidFilename
  | invalidData
  | timedOut
  | writeZero
  | interrupted
  | unsupported
  | unexpectedEof
  | outOfMemory
  | fileTooLarge
  | other
deriving DecidableEq, Repr

namespace IoKind

/-- All kinds with their names. -/
def named : List (IoKind × String) :=
  [(notFound, "NotFound"), (permissionDenied, "PermissionDenied"),
    (connectionRefused, "ConnectionRefused"), (connectionReset, "ConnectionReset"),
    (connectionAborted, "ConnectionAborted"), (notConnected, "NotConnected"),
    (brokenPipe, "BrokenPipe"), (alreadyExists, "AlreadyExists"), (wouldBlock, "WouldBlock"),
    (notADirectory, "NotADirectory"), (isADirectory, "IsADirectory"),
    (invalidInput, "InvalidInput"), (invalidFilename, "InvalidFilename"),
    (invalidData, "InvalidData"), (timedOut, "TimedOut"), (writeZero, "WriteZero"),
    (interrupted, "Interrupted"), (unsupported, "Unsupported"),
    (unexpectedEof, "UnexpectedEof"), (outOfMemory, "OutOfMemory"),
    (fileTooLarge, "FileTooLarge"), (other, "Other")]

/-- The name of a kind. -/
def name (k : IoKind) : String :=
  ((named.find? fun p => p.1 = k).map Prod.snd).getD "Other"

/-- The kind with the given name. -/
def ofName? (name : String) : Option IoKind :=
  (named.find? fun p => p.2 = name).map Prod.fst

end IoKind

end BatchFile
