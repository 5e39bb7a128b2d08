/-
  SearchDomain.Number.Decimal

  Decimal numbers beside binary ones: the binary64 number nearest to a decimal,
  and the shortest decimal that reads back as a given binary64 number.
-/
import SearchDomain.Number.Binary64
import SearchDomain.Number.Digits

namespace SearchDomain

/-- The number `digits * 10 ^ exponent`. -/
structure Decimal where
  digits : Nat
  exponent : Int
deriving DecidableEq, Repr

/-- Which of two equally near candidates is taken. -/
inductive Tie where
  | toEven
  | up
deriving DecidableEq, Repr

namespace Decimal

/-- The binary64 number nearest to a decimal. -/
def toBinary64 (negative : Bool) (d : Decimal) : Binary64 :=
  if 0 ≤ d.exponent then
    Binary64.ofRatio negative (d.digits * Nat.pow 10 d.exponent.toNat) 1
  else
    Binary64.ofRatio negative d.digits (Nat.pow 10 (-d.exponent).toNat)

/-- Drops zeros from the end of the digits; at most `fuel` of them. -/
def dropZeros : Nat → Decimal → Decimal
  | 0, d => d
  | fuel + 1, d =>
    if d.digits ≠ 0 ∧ d.digits % 10 = 0 then dropZeros fuel ⟨d.digits / 10, d.exponent + 1⟩ else d

/-- How many decimal digits a natural number has. -/
def digitCount (n : Nat) : Nat :=
  (Nat.toDigits 10 n).length

/-! ## Shortest decimals -/

/-- The exact decimal value of a finite number. -/
def exact (x : Binary64) : Decimal :=
  ⟨x.units * Nat.pow 5 1074, -1074⟩

/-- For a finite number other than zero, the `k` with `10 ^ (k - 1) ≤ |x| < 10 ^ k`. -/
def pointPosition (x : Binary64) : Int :=
  (digitCount (x.units * Nat.pow 10 400 / Binary64.unitsPerOne) : Int) - 400

/-- Of the two decimals with `count` digits around a finite number, the nearest that reads back
as the number. -/
def candidate (tie : Tie) (x : Binary64) (count : Nat) : Option Decimal :=
  let exponent := pointPosition x - count
  -- the number is `num / den` steps of `10 ^ exponent`
  let num := if 0 ≤ exponent then x.units else x.units * Nat.pow 10 (-exponent).toNat
  let den := Binary64.unitsPerOne * if 0 ≤ exponent then Nat.pow 10 exponent.toNat else 1
  let below : Decimal := ⟨num / den, exponent⟩
  let above : Decimal := ⟨num / den + 1, exponent⟩
  -- both neighbours on that grid are tried, whether or not they read back
  let belowReads := below.toBinary64 x.negative = x
  let aboveReads := above.toBinary64 x.negative = x
  let twice := 2 * (num % den)
  let belowNearer := twice < den ∨ (twice = den ∧ tie = .toEven ∧ below.digits % 2 = 0)
  if belowReads ∧ (belowNearer ∨ ¬aboveReads) then some below
  else if aboveReads then some above
  else none

/-- The decimal with the fewest digits that reads back as a finite number, of those the nearest.
Seventeen digits always suffice; the exact value stands behind them. -/
def shortest (tie : Tie) (x : Binary64) : Decimal :=
  if x.isZero then ⟨0, 0⟩
  else
    match (List.range 17).findSome? fun n => candidate tie x (n + 1) with
    | some d => dropZeros 17 d
    | none => exact x

end Decimal

/-! ## Reading decimal text -/

namespace Binary64

/-- An exponent, without its `e`: an optional sign and digits to the end. -/
def readExponent (cs : List Char) : Option Int :=
  let unsigned (ds : List Char) : Option Nat :=
    if ds ≠ [] ∧ ds.all Char.isDigit then some (Digits.toNat ds) else none
  match cs with
  | '+' :: ds => (unsigned ds).map Int.ofNat
  | '-' :: ds => (unsigned ds).map fun n => -Int.ofNat n
  | ds => (unsigned ds).map Int.ofNat

/-- A decimal far beyond the finite range, or far below the least number, is cut short before
its powers of ten are formed. -/
def ofDecimal (negative : Bool) (d : Decimal) : Binary64 :=
  if d.digits = 0 then zero negative
  else if 400 < d.exponent + Decimal.digitCount d.digits then infinity negative
  else if d.exponent + Decimal.digitCount d.digits < -400 then zero negative
  else d.toBinary64 negative

/-- Digits with an optional point and exponent. -/
def readUnsigned (negative : Bool) (cs : List Char) : Option Binary64 :=
  let (whole, afterWhole) := Digits.span cs
  let (fraction, rest) :=
    match afterWhole with
    | '.' :: more => Digits.span more
    | other => ([], other)
  if whole = [] ∧ fraction = [] then none
  else
    let exponent :=
      match rest with
      | [] => some 0
      | c :: more => if c = 'e' ∨ c = 'E' then readExponent more else none
    exponent.map fun e =>
      ofDecimal negative ⟨Digits.toNat (whole ++ fraction), e - fraction.length⟩

/-- Reads a number as correctly rounded: decimal text, or the name of infinity or of NaN in any
case, with an optional sign. -/
def ofText? (s : String) : Option Binary64 :=
  let named (negative : Bool) (cs : List Char) : Option Binary64 :=
    let name := String.ofList (cs.map Char.toLower)
    if name = "inf" ∨ name = "infinity" then some (infinity negative)
    else if name = "nan" then some (nan negative)
    else readUnsigned negative cs
  match s.toList with
  | '-' :: cs => named true cs
  | '+' :: cs => named false cs
  | cs => named false cs

end Binary64

end SearchDomain
