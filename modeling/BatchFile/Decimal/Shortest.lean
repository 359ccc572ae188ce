/-!
# Shortest decimal texts

A finite binary floating-point number is a multiple of the least step of its format, and
stands for the real numbers that round to it: those up to half the distance to its
neighbours.  Its shortest decimal is the multiple of the largest power of ten that lies
among these numbers; of two of them it is the nearer one, and of two equally near the
larger.  `FloatFormat.text` writes that decimal without an exponent.

All numbers are counted in units so small that the step, its quarter and the powers of ten
that matter are whole.
-/

namespace BatchFile

namespace Decimal

/-- A number together with the numbers that round to it. -/
structure RoundingRange where
  low : Nat
  value : Nat
  high : Nat
  /-- Whether the two ends round to the number. -/
  closed : Bool
deriving DecidableEq, Repr

namespace RoundingRange

/-- Whether a number rounds to the value. -/
def holds (r : RoundingRange) (x : Nat) : Bool :=
  if r.closed then r.low ≤ x && x ≤ r.high else r.low < x && x < r.high

/-- The multiple of `grid` nearest to the value among those that round to it, if there are
any: the last one up to the value or the first one above it. -/
def nearest? (r : RoundingRange) (grid : Nat) : Option Nat :=
  let below := r.value / grid * grid
  let above := below + grid
  if r.holds below then
    if r.holds above && above - r.value ≤ r.value - below then some above else some below
  else if r.holds above then some above
  else none

/-- The multiple of the largest of `unit`, `unit * 10`, and so on for `count` powers of ten,
that rounds to the value; if there is none, the last multiple of `unit` up to the value. -/
def shortest (r : RoundingRange) (unit : Nat) : Nat → Nat
  | 0 => (r.nearest? unit).getD (r.value / unit * unit)
  | count + 1 => (r.nearest? (unit * Nat.pow 10 (count + 1))).getD (r.shortest unit count)

end RoundingRange

/-- The decimal digits of a number, at least `count` of them. -/
def paddedDigits (count n : Nat) : List Char :=
  let digits := Nat.toDigits 10 n
  List.replicate (count - digits.length) '0' ++ digits

/-- The text of `n` units of the decimal place `places`, without an exponent and without
zeros at the end of the fraction. -/
def plainText (places n : Nat) : String :=
  let fraction := (paddedDigits places (n % Nat.pow 10 places)).reverse.dropWhile (· = '0')
  let whole := toString (n / Nat.pow 10 places)
  if fraction = [] then whole else whole ++ "." ++ String.ofList fraction.reverse

end Decimal

/-- A binary floating-point format: below the sign bit, an exponent and a fraction. -/
structure FloatFormat where
  exponentBits : Nat
  fractionBits : Nat
  /-- A decimal place finer than the least step. -/
  places : Nat
deriving DecidableEq, Repr

namespace FloatFormat

open Decimal

/-- The format of four bytes. -/
def single : FloatFormat := ⟨8, 23, 46⟩

/-- The format of eight bytes. -/
def double : FloatFormat := ⟨11, 52, 325⟩

/-- The fraction in the bits of a number. -/
def fraction (f : FloatFormat) (bits : Nat) : Nat :=
  bits % (1 <<< f.fractionBits)

/-- The exponent in the bits of a number. -/
def exponent (f : FloatFormat) (bits : Nat) : Nat :=
  (bits >>> f.fractionBits) % (1 <<< f.exponentBits)

/-- Whether the sign bit is set. -/
def isNegative (f : FloatFormat) (bits : Nat) : Bool :=
  (bits >>> (f.fractionBits + f.exponentBits)) % 2 = 1

/-- The exponent of the infinities and of what is no number. -/
def topExponent (f : FloatFormat) : Nat :=
  (1 <<< f.exponentBits) - 1

/-- The number of least steps in one, as an exponent of two. -/
def stepBits (f : FloatFormat) : Nat :=
  (1 <<< (f.exponentBits - 1)) - 2 + f.fractionBits

/-- The magnitude of a finite number and what rounds to it.  The unit is a quarter of the
least step divided by a power of ten.  The distance to the smaller neighbour is half the one
to the larger where the fraction is zero, the least exponents apart. -/
def range (f : FloatFormat) (bits : Nat) : RoundingRange :=
  let exponent := f.exponent bits
  let fraction := f.fraction bits
  let significand := if exponent = 0 then fraction else (1 <<< f.fractionBits) + fraction
  let half := Nat.pow 10 f.places <<< max exponent 1
  let halfBelow := if fraction = 0 && 1 < exponent then half / 2 else half
  let value := 2 * half * significand
  ⟨value - halfBelow, value, value + half, significand % 2 = 0⟩

/-- The shortest decimal text of the magnitude of a finite number. -/
def magnitudeText (f : FloatFormat) (bits : Nat) : String :=
  let unit := 4 <<< f.stepBits
  plainText f.places ((f.range bits).shortest unit (2 * f.places) / unit)

/-- The text of the number with the given bits. -/
def text (f : FloatFormat) (bits : Nat) : String :=
  let sign := if f.isNegative bits then "-" else ""
  if f.exponent bits = f.topExponent then
    if f.fraction bits = 0 then sign ++ "inf" else "NaN"
  else sign ++ f.magnitudeText bits

end FloatFormat

end BatchFile
