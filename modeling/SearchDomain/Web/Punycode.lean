/-
  SearchDomain.Web.Punycode

  Reading the ASCII form of an international label: RFC 3492. The characters
  beyond ASCII are given by the steps from one insertion to the next, each step
  a number whose digits have weights that adapt to the steps before.
-/
namespace SearchDomain.Web.Punycode

/-- The value of a digit: a letter in either case, then the decimal digits. -/
def digitValue (c : Char) : Option Nat :=
  if 'a' ≤ c ∧ c ≤ 'z' then some (c.toNat - 'a'.toNat)
  else if 'A' ≤ c ∧ c ≤ 'Z' then some (c.toNat - 'A'.toNat)
  else if c.isDigit then some (c.toNat - '0'.toNat + 26)
  else none

/-- Scales a step down until it is small, counting the scalings. -/
def scaleDown : Nat → Nat → Nat → Nat × Nat
  | 0, delta, rounds => (delta, rounds)
  | fuel + 1, delta, rounds =>
    if 455 < delta then scaleDown fuel (delta / 35) (rounds + 1) else (delta, rounds)

/-- The bias for the next step, from the last one and the length so far. -/
def adapt (delta length : Nat) (isFirst : Bool) : Nat :=
  let damped := if isFirst then delta / 700 else delta / 2
  let (small, rounds) := scaleDown 64 (damped + damped / length) 0
  36 * rounds + 36 * small / (small + 38)

/-- Where the reader stands. -/
structure State where
  /-- The text so far. -/
  output : List Char
  /-- The character that is inserted next, as a code point. -/
  codePoint : Nat
  /-- Where it is inserted. -/
  place : Nat
  bias : Nat
  /-- The place at which the step under way began. -/
  stepStart : Nat
  weight : Nat
  /-- The digit under way, in units of 36. -/
  digit : Nat

/-- The bound on places and weights, which are kept in 32 bits. -/
def wordBound : Nat := 0x100000000

def start (basic : List Char) : State :=
  { output := basic, codePoint := 0x80, place := 0, bias := 72, stepStart := 0, weight := 1,
    digit := 36 }

/-- One digit further. The last digit of a step inserts a character. -/
def step (s : State) (c : Char) : Option State := do
  let value ← digitValue c
  let place := s.place + value * s.weight
  let threshold := min (max (s.digit - s.bias) 1) 26
  let weight := s.weight * (36 - threshold)
  if wordBound ≤ place then none
  else if value < threshold then
    let length := s.output.length + 1
    let codePoint := s.codePoint + place / length
    let index := place % length
    if 0x10FFFF < codePoint ∨ (0xD800 ≤ codePoint ∧ codePoint < 0xE000) then none
    else
      some {
        output := s.output.take index ++ Char.ofNat codePoint :: s.output.drop index
        codePoint := codePoint
        place := index + 1
        bias := adapt (place - s.stepStart) length (s.stepStart == 0)
        stepStart := index + 1
        weight := 1
        digit := 36 }
  else if wordBound ≤ weight then none
  else some { s with place := place, weight := weight, digit := s.digit + 36 }

/-- The label that an ASCII form stands for, the characters before the last hyphen being the basic
ones. A hyphen with nothing before it ends no basic characters. -/
def decode (cs : List Char) : Option (List Char) := do
  let basic := ((cs.reverse.dropWhile (· ≠ '-')).drop 1).reverse
  let digits := if basic = [] then cs else (cs.reverse.takeWhile (· ≠ '-')).reverse
  let last ← digits.foldlM step (start basic)
  if last.weight = 1 then some last.output else none

end SearchDomain.Web.Punycode
