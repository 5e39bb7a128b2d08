/-
  SearchDomain.Number.Layout

  How a binary64 number is laid out as text. The digits are always the shortest
  that read back; a layout says where the point goes, when an exponent is used
  and what a whole number looks like.
-/
import SearchDomain.Number.Decimal

namespace SearchDomain

/-- The choices open to a writer of binary64 numbers. -/
structure Layout where
  /-- The least power of ten of the leading digit that is written without an exponent, if any
  number is written with one. -/
  leastPositional : Option Int
  /-- The first power of ten of the leading digit that is written with an exponent again. -/
  positionalEnd : Option Int
  /-- Whether a whole number written without exponent ends in `.0`. -/
  pointZero : Bool
  /-- Which of two equally near candidates gives the digits. -/
  tie : Tie
deriving DecidableEq, Repr

namespace Layout

/-- Whether a number with this power of ten in front is written without an exponent. -/
def isPositional (layout : Layout) (leading : Int) : Bool :=
  (match layout.leastPositional with
    | some least => decide (least ≤ leading)
    | none => true) &&
  (match layout.positionalEnd with
    | some bound => decide (leading < bound)
    | none => true)

/-- Digits with the point after the first `position` of them. -/
def positional (layout : Layout) (digits : List Char) (position : Int) : List Char :=
  if position ≤ 0 then
    '0' :: '.' :: (List.replicate (-position).toNat '0' ++ digits)
  else if digits.length ≤ position.toNat then
    digits ++ List.replicate (position.toNat - digits.length) '0' ++
      if layout.pointZero then ['.', '0'] else []
  else
    digits.take position.toNat ++ '.' :: digits.drop position.toNat

/-- Digits with the point after the first, and the power of ten behind. -/
def scientific (digits : List Char) (leading : Int) : List Char :=
  let mantissa :=
    match digits with
    | [] => []
    | [d] => [d]
    | d :: ds => d :: '.' :: ds
  mantissa ++ 'e' :: (toString leading).toList

/-- The text of a finite number. -/
def finiteText (layout : Layout) (x : Binary64) : List Char :=
  let d := Decimal.shortest layout.tie x
  let digits := Nat.toDigits 10 d.digits
  let leading := d.exponent + digits.length - 1
  let unsigned :=
    if layout.isPositional leading then layout.positional digits (leading + 1)
    else scientific digits leading
  if x.negative then '-' :: unsigned else unsigned

/-- The text of a number. -/
def text (layout : Layout) (x : Binary64) : String :=
  if x.isNaN then "NaN"
  else if x.isFinite then String.ofList (layout.finiteText x)
  else if x.negative then "-inf"
  else "inf"

end Layout

namespace Binary64

/-- In filters and in dumps of values: never an exponent, and no `.0`. -/
def plainLayout : Layout := ⟨none, none, false, .up⟩

/-- In JSON: an exponent from `1e16` on and below `0.00001`, and always a point or an exponent. -/
def jsonLayout : Layout := ⟨some (-5), some 16, true, .toEven⟩

/-- The number in plain decimal digits. -/
def plainText (x : Binary64) : String :=
  plainLayout.text x

/-- The number as JSON writes it. -/
def jsonText (x : Binary64) : String :=
  jsonLayout.text x

end Binary64

end SearchDomain
