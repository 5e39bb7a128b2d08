/-
  SearchDomain.Json.Number

  Numbers in JSON text. A number without point and exponent is whole as long as
  64 bits hold it. Any other is read as a significand of at most 64 bits, with
  further digits dropped, and one multiplication or division by a power of ten,
  each step rounded to binary64. A number too large for binary64 is refused.
-/
import SearchDomain.Json.Basic

namespace SearchDomain.Json

/-- A whole significand and how far the digits read so far move the point to the right. -/
structure Scaled where
  significand : Nat
  exponent : Int

namespace Scaled

/-- Whether another digit would leave 64 bits. -/
def overflows (n : Scaled) (digit : Char) : Bool :=
  0x10000000000000000 ≤ 10 * n.significand + Digits.value digit

/-- The significand with one more digit behind. -/
def push (n : Scaled) (digit : Char) : Nat :=
  10 * n.significand + Digits.value digit

/-- Digits before the point. From the first that does not fit on, digits only move the point. -/
def readWhole : Scaled → List Char → Scaled
  | n, [] => n
  | n, d :: ds =>
    if n.exponent = 0 ∧ ¬n.overflows d then readWhole ⟨n.push d, 0⟩ ds
    else readWhole ⟨n.significand, n.exponent + 1⟩ ds

/-- Digits behind the point. From the first that does not fit on, digits are dropped. -/
def readFraction : Scaled → List Char → Scaled
  | n, [] => n
  | n, d :: ds => if n.overflows d then n else readFraction ⟨n.push d, n.exponent - 1⟩ ds

/-- Moves the point of a binary64 number to the left, by whole steps of 308 places until the rest
is a power of ten that binary64 holds. Three steps bring every significand to zero. -/
def shrink : Nat → Binary64 → Nat → Binary64
  | 0, x, _ => x
  | fuel + 1, x, places =>
    -- `1e308` is the greatest power of ten that binary64 holds
    if places ≤ 308 then x.div (Binary64.ofNat (Nat.pow 10 places))
    else if x.isZero then x
    else shrink fuel (x.div (Binary64.ofNat (Nat.pow 10 308))) (places - 308)

/-- The number in binary64, unless it is too large. -/
def toBinary64? (n : Scaled) : Option Binary64 :=
  let x := Binary64.ofNat n.significand
  if 0 ≤ n.exponent then
    if 308 < n.exponent then
      if x.isZero then some x else none
    else
      let product := x.mul (Binary64.ofNat (Nat.pow 10 n.exponent.toNat))
      if product.isFinite then some product else none
  else some (shrink 4 x (-n.exponent).toNat)

end Scaled

/-! ## From text -/

/-- An exponent behind its `e`: a sign or none, then at least one digit. -/
def spanExponent (cs : List Char) : Option (Int × List Char) :=
  let unsigned (cs : List Char) : Option (Nat × List Char) :=
    match Digits.span cs with
    | ([], _) => none
    | (digits, rest) => some (Digits.toNat digits, rest)
  match cs with
  | '-' :: rest => (unsigned rest).map fun found => (-Int.ofNat found.1, found.2)
  | '+' :: rest => (unsigned rest).map fun found => (Int.ofNat found.1, found.2)
  | rest => (unsigned rest).map fun found => (Int.ofNat found.1, found.2)

/-- A number with a point or an exponent, or too long for 64 bits. -/
def finishReal (negative : Bool) (n : Scaled) (rest : List Char) :
    Option (JsonNumber × List Char) :=
  n.toBinary64?.map fun x => (.real (if negative then x.neg else x), rest)

/-- The exponent if one follows, and the number. -/
def spanScaled (negative : Bool) (n : Scaled) (cs : List Char) :
    Option (JsonNumber × List Char) :=
  match cs with
  | c :: rest =>
    if c = 'e' ∨ c = 'E' then
      (spanExponent rest).bind fun found =>
        finishReal negative ⟨n.significand, n.exponent + found.1⟩ found.2
    else finishReal negative n cs
  | [] => finishReal negative n []

/-- A whole number within 64 bits. Zero with a sign, and what is below `-2 ^ 63`, are binary64. -/
def ofWhole (negative : Bool) (n : Nat) : JsonNumber :=
  if negative then
    if n = 0 ∨ 0x8000000000000000 < n then .real (Binary64.ofNat n).neg else .whole (-Int.ofNat n)
  else .whole (Int.ofNat n)

/-- A number without its sign, and what follows it. -/
def spanUnsigned (negative : Bool) (cs : List Char) : Option (JsonNumber × List Char) :=
  let (digits, rest) := Digits.span cs
  let n := Scaled.readWhole ⟨0, 0⟩ digits
  if digits = [] ∨ (digits.head? = some '0' ∧ 1 < digits.length) then none
  else
    match rest with
    | '.' :: more =>
      let (fraction, rest) := Digits.span more
      if fraction = [] then none
      else spanScaled negative (n.readFraction fraction) rest
    | c :: _ =>
      if c = 'e' ∨ c = 'E' then spanScaled negative n rest
      else if n.exponent = 0 then some (ofWhole negative n.significand, rest)
      else finishReal negative n rest
    | [] =>
      if n.exponent = 0 then some (ofWhole negative n.significand, [])
      else finishReal negative n []

/-- The number in front of a text, and what follows it. -/
def spanNumber : List Char → Option (JsonNumber × List Char)
  | '-' :: cs => spanUnsigned true cs
  | cs => spanUnsigned false cs

end SearchDomain.Json
