/-
  SearchDomain.Number.Binary64

  Binary floating-point numbers of 64 bits, as exact data: a sign and the
  exponent and fraction bits read as one natural number. Every operation rounds
  an exact quotient to the nearest number, a tie to the even one, so nothing
  here depends on the machine's own arithmetic.
-/
namespace SearchDomain

/-- Rounds a quotient to the nearest natural number, a half to the even neighbour. -/
def roundHalfEven (num den : Nat) : Nat :=
  let quotient := num / den
  let twice := 2 * (num % den)
  if twice < den then quotient
  else if den < twice then quotient + 1
  else if quotient % 2 = 0 then quotient
  else quotient + 1

/-- A binary64 number. The magnitude is what the 63 bits below the sign spell: eleven of
exponent, then 52 of fraction, so that magnitudes are ordered as the numbers are. -/
structure Binary64 where
  negative : Bool
  magnitude : Nat
deriving DecidableEq, Repr

namespace Binary64

/-- How many fractions there are for each exponent: two to the power of 52. -/
def fractionCount : Nat := 0x10000000000000

/-- The magnitude of infinity; those of finite numbers lie below it, those of NaN above. -/
def infinityMagnitude : Nat := 0x7FF * fractionCount

def zero (negative : Bool) : Binary64 := ⟨negative, 0⟩

def infinity (negative : Bool) : Binary64 := ⟨negative, infinityMagnitude⟩

def nan (negative : Bool) : Binary64 := ⟨negative, infinityMagnitude + fractionCount / 2⟩

def isFinite (x : Binary64) : Bool :=
  x.magnitude < infinityMagnitude

def isNaN (x : Binary64) : Bool :=
  infinityMagnitude < x.magnitude

def isZero (x : Binary64) : Bool :=
  x.magnitude = 0

def neg (x : Binary64) : Binary64 :=
  ⟨!x.negative, x.magnitude⟩

/-! ## The value -/

/-- The significand: the fraction bits, with the leading one that all but the least numbers have. -/
def significand (x : Binary64) : Nat :=
  if x.magnitude < fractionCount then x.magnitude
  else fractionCount + x.magnitude % fractionCount

/-- The power of two, in units of the least positive number, that the significand counts. -/
def scale (x : Binary64) : Nat :=
  x.magnitude / fractionCount - 1

/-- How many units of `2 ^ -1074` a finite number is away from zero. -/
def units (x : Binary64) : Nat :=
  x.significand * Nat.pow 2 x.scale

/-- One, in units of `2 ^ -1074`. -/
def unitsPerOne : Nat := Nat.pow 2 1074

/-- The magnitude nearest to a quotient of units. A carry out of the significand runs into the
exponent, which is where it belongs; what is too large is infinity. -/
def nearestMagnitude (num den : Nat) : Nat :=
  let scale := Nat.log2 (num / den) - 52
  min (scale * fractionCount + roundHalfEven num (den * Nat.pow 2 scale)) infinityMagnitude

/-- The number nearest to a quotient. -/
def ofRatio (negative : Bool) (num den : Nat) : Binary64 :=
  ⟨negative, nearestMagnitude (num * unitsPerOne) den⟩

def ofNat (n : Nat) : Binary64 :=
  ofRatio false n 1

def ofInt (n : Int) : Binary64 :=
  ofRatio (n < 0) n.natAbs 1

/-- The product of two finite numbers. -/
def mul (x y : Binary64) : Binary64 :=
  ⟨x.negative != y.negative, nearestMagnitude (x.units * y.units) unitsPerOne⟩

/-- The quotient of two finite numbers, the second not zero. -/
def div (x y : Binary64) : Binary64 :=
  ⟨x.negative != y.negative, nearestMagnitude (x.units * unitsPerOne) y.units⟩

end Binary64

end SearchDomain
