import BatchFile.Json.Lexeme
import BatchFile.Storage.IoKind

/-!
# Errors with context

An error together with what was being done, the outermost activity first.
-/

namespace BatchFile

/-- The cause of an error with context. -/
inductive Cause where
  | io (kind : IoKind)
  | json (fault : Json.Fault)
deriving DecidableEq, Repr

/-- An error and what was being done. -/
structure ContextError where
  context : List String
  cause : Cause
deriving DecidableEq, Repr

/-- An outcome whose failure is one of the given activity. -/
def during {ε α : Type} (activity : String) (cause : ε → Cause) :
    Except ε α → Except ContextError α
  | .ok a => .ok a
  | .error e => .error ⟨[activity], cause e⟩

/-- An outcome whose failure is also one of the given outer activity. -/
def within {α : Type} (activity : String) : Except ContextError α → Except ContextError α
  | .ok a => .ok a
  | .error e => .error ⟨activity :: e.context, e.cause⟩

end BatchFile
