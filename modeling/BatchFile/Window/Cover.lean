import BatchFile.RowRange
import BatchFile.Window.Basic

/-!
# Covering checks

Rows numbered from zero carry their number in an integer column `id`.
`Window.checkCover` checks that a list of windows is what a read of a row range should
return: the sizes add up, no window of a read with rows is empty, and the numbers are the
expected ones in order.  Sums are formed in words, and one that no word holds fails the
check.
-/

namespace BatchFile

/-- Why windows do not cover a row range. -/
inductive CoverError where
  | noWindow
  | size (total : Nat) (limit : UInt64) (ranges : List (Nat × Nat))
  | emptyRead (windowCount : Nat)
  | emptyWindow (position : Nat)
  | noIdColumn
  | idTooLarge
  | sumTooLarge
  | ids (range : RowRange) (actual expected : List Int)
deriving DecidableEq, Repr

namespace CoverError

/-- A list of texts between square brackets. -/
def bracketed (texts : List String) : String :=
  "[" ++ ", ".intercalate texts ++ "]"

/-- The wording of a comparison that failed. -/
def comparison (claim left right : String) : String :=
  "assertion `left == right` failed: " ++ claim ++ "\n  left: " ++ left
    ++ "\n right: " ++ right

/-- The wording of a covering error. -/
def message : CoverError → String
  | noWindow => "a read never returns zero windows"
  | size total limit ranges =>
    comparison
      ("window sizes add up to " ++ toString total ++ ", expected " ++ toString limit
        ++ ":\n  windows: "
        ++ bracketed (ranges.map fun r => "(" ++ toString r.1 ++ ", " ++ toString r.2 ++ ")"))
      (toString total) (toString limit)
  | emptyRead n =>
    comparison "an empty read returns exactly one window" (toString n) "1"
  | emptyWindow i => "window #" ++ toString i ++ " is empty in a non-empty read"
  | noIdColumn => "window batch has an Int64 `id` column"
  | idTooLarge => "row id fits in i64"
  | sumTooLarge => "attempt to add with overflow"
  | ids range actual expected =>
    comparison
      ("windows do not reconstruct rows [" ++ toString range.start ++ ", "
        ++ toString range.stop ++ ")")
      (bracketed (actual.map toString)) (bracketed (expected.map toString))

end CoverError

namespace Window

/-- The type of row numbers. -/
def idType : DataType := .integer true .w64

/-- The number a stored value is. -/
def storedInteger : Value → Int
  | .integer n => n
  | _ => 0

/-- The stored row numbers of the selected rows, null slots included. -/
def ids (w : Window) : Except CoverError (List Int) :=
  match w.slice.columnNamed? "id" with
  | some c =>
    if c.type = idType then .ok (c.storedValues.map storedInteger) else .error .noIdColumn
  | none => .error .noIdColumn

/-- The stored row numbers of all windows, in order. -/
def allIds (ws : List Window) : Except CoverError (List Int) :=
  List.flatten <$> ws.mapM ids

/-- The problem with the numbers of the rows of a range with rows: they end behind all words,
or not all of them are signed words. -/
def rangeProblem? (range : RowRange) : Option CoverError :=
  let stop := range.start.toNat + range.limit.toNat
  if UInt64.size ≤ stop then some .sumTooLarge
  else if UInt64.size / 2 < stop then some .idTooLarge
  else none

/-- The numbers of the rows of a range. -/
def expectedIds (range : RowRange) : List Int :=
  (List.range range.limit.toNat).map fun i => (range.start.toNat + i : Nat)

/-- The check that the windows are what a read of the given rows should return. -/
def checkCover (ws : List Window) (range : RowRange) : Except CoverError Unit := do
  if ws = [] then throw .noWindow
  let total := totalSize ws
  if UInt64.size ≤ total then throw .sumTooLarge
  if total ≠ range.limit.toNat then
    throw (.size total range.limit (ws.map fun w => (w.start, w.stop)))
  if total = 0 then
    if ws.length ≠ 1 then throw (.emptyRead ws.length)
  else
    if let some i := ws.findIdx? isEmpty then throw (.emptyWindow i)
    if let some problem := rangeProblem? range then throw problem
    let actual ← allIds ws
    let expected := expectedIds range
    if actual ≠ expected then throw (.ids range actual expected)

end Window

end BatchFile
