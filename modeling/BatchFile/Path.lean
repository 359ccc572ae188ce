/-!
# File paths

A path is a text whose parts are separated by slashes.  `Path.join` puts one path under
another without normalising either, `Path.components` lists the parts that matter (empty
parts and inner `.` parts do not), and `Path.parent?` is the path without its last
component.
-/

namespace BatchFile

/-- A file path. -/
abbrev Path := String

namespace Path

/-- Whether the path starts at the root directory. -/
def isAbsolute (p : Path) : Bool :=
  p.toList.head? = some '/'

/-- The path `q` seen from `base`: `q` itself if it is absolute, and otherwise `base`
followed by `q` with one slash between them, unless `base` is empty or ends in one. -/
def join (base q : Path) : Path :=
  if q.isAbsolute then q
  else if base.isEmpty || base.toList.getLast? = some '/' then base ++ q
  else base ++ "/" ++ q

/-- The parts of a text between its slashes, empty ones included. -/
def splitSlashes : List Char → List (List Char)
  | [] => [[]]
  | c :: r =>
    if c = '/' then [] :: splitSlashes r
    else
      match splitSlashes r with
      | part :: parts => (c :: part) :: parts
      | [] => [[c]]

/-- The parts of the path between its slashes, empty ones included. -/
def parts (p : Path) : List String :=
  (splitSlashes p.toList).map String.ofList

/-- The components of a path: a `/` for the root, then the parts that are neither empty
nor `.`; a leading `.` of a relative path counts. -/
def components (p : Path) : List String :=
  if p.isAbsolute then "/" :: p.parts.filter fun part => part ≠ "" && part ≠ "."
  else
    match p.parts with
    | "." :: rest => "." :: rest.filter fun part => part ≠ "" && part ≠ "."
    | parts => parts.filter fun part => part ≠ "" && part ≠ "."

/-- Whether two paths have the same components. -/
def same (p q : Path) : Bool :=
  p.components = q.components

/-- The longest beginning of the text that has the first `n` components of it, without the
slashes that end it.  `isFirst` says whether the next part is the first one, where a `.` is a
component. -/
def takeComponents (isFirst : Bool) : Nat → List (List Char) → List (List Char)
  | _, [] => []
  | n, part :: rest =>
    if part = [] || (part = ['.'] && !isFirst) then
      match takeComponents false n rest with
      | [] => []
      | kept => part :: kept
    else
      match n with
      | 0 => []
      | n + 1 => part :: takeComponents false n rest

/-- The path without its last component; none for a path that has no component or is the
root. -/
def parent? (p : Path) : Option Path :=
  match p.components with
  | [] => none
  | ["/"] => none
  | parts =>
    if p.isAbsolute then
      let kept := takeComponents false (parts.length - 2) (splitSlashes p.toList)
      if kept = [] then some "/" else some ("/".intercalate (kept.map String.ofList))
    else
      some ("/".intercalate
        ((takeComponents true (parts.length - 1) (splitSlashes p.toList)).map String.ofList))

/-- A path and up to `n` paths that it lies under, the longest first. -/
def ancestors : Nat → Path → List Path
  | 0, p => [p]
  | n + 1, p =>
    match p.parent? with
    | none => [p]
    | some parent => p :: ancestors n parent

end Path

end BatchFile
