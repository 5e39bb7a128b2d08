/-
  SearchDomain.Calendar.Instant

  Instants of coordinated universal time, and the timestamps in which filters
  and documents carry them.
-/
import SearchDomain.Calendar.Date
import SearchDomain.Number.Digits

namespace SearchDomain

/-- An instant: seconds since 1970-01-01T00:00:00Z and nanoseconds of the second. A leap second
follows the second that is counted and is not counted itself. -/
structure Instant where
  second : Int
  nanosecond : Nat
  leap : Bool
deriving DecidableEq, Repr

namespace Instant

/-- The beginning of a second. -/
def ofSeconds (second : Int) : Instant := ⟨second, 0, false⟩

/-- The beginning of a day. -/
def midnight (d : Date) : Instant := ofSeconds (86400 * d.dayNumber)

/-! ## Timestamps -/

/-- A number with zeros in front up to a width. -/
def padded (width n : Nat) : List Char :=
  let digits := Nat.toDigits 10 n
  List.replicate (width - digits.length) '0' ++ digits

/-- A year in four digits, with a sign when it lies outside 0 to 9999. -/
def yearText (year : Int) : List Char :=
  if year < 0 then '-' :: padded 4 year.natAbs
  else if 9999 < year then '+' :: padded 4 year.natAbs
  else padded 4 year.natAbs

/-- Date and time of day of an instant: the day, hour, minute and second, a leap second as 60. -/
def civil (t : Instant) : Date × Nat × Nat × Nat :=
  let daySecond := (t.second % 86400).toNat
  (Date.ofDayNumber (t.second / 86400), daySecond / 3600, daySecond / 60 % 60,
    daySecond % 60 + if t.leap then 1 else 0)

/-- The instant as `YYYY-MM-DDTHH:MM:SSZ`, without the fraction of its second. -/
def timestamp (t : Instant) : String :=
  let (date, hour, minute, second) := t.civil
  String.ofList <|
    yearText date.year ++ '-' :: padded 2 date.month ++ '-' :: padded 2 date.day ++
      'T' :: padded 2 hour ++ ':' :: padded 2 minute ++ ':' :: padded 2 second ++ ['Z']

/-! ## Reading timestamps -/

/-- The number that two digits spell. -/
def twoDigits (a b : Char) : Option Nat :=
  if a.isDigit ∧ b.isDigit then some (Digits.toNat [a, b]) else none

/-- The nanoseconds that the digits of a fraction spell; those behind the ninth do not count. -/
def fractionValue (digits : List Char) : Nat :=
  let kept := digits.take 9
  Digits.toNat kept * Nat.pow 10 (9 - kept.length)

/-- An optional fraction of a second, and what follows it. -/
def spanFraction : List Char → Option (Nat × List Char)
  | '.' :: cs =>
    match Digits.span cs with
    | ([], _) => none
    | (digits, rest) => some (fractionValue digits, rest)
  | cs => some (0, cs)

/-- The offset from universal time at the end of a timestamp, in seconds: `Z`, or hours and
minutes behind a sign. -/
def readOffset : List Char → Option Int
  | ['Z'] => some 0
  | ['z'] => some 0
  | [sign, h, h', ':', m, m'] =>
    match twoDigits h h', twoDigits m m' with
    | some hours, some minutes =>
      if 23 < hours ∨ 59 < minutes then none
      else
        let seconds : Int := 3600 * hours + 60 * minutes
        -- the minus sign proper is as good as the hyphen
        if sign = '+' then some seconds
        else if sign = '-' ∨ sign = '\u2212' then some (-seconds)
        else none
    | _, _ => none
  | _ => none

/-- A date and a time of day at an offset from universal time; second 60 is a leap second. -/
def ofCivil? (date : Date) (hour minute second nanosecond : Nat) (offset : Int) :
    Option Instant :=
  if date.IsValid ∧ hour ≤ 23 ∧ minute ≤ 59 ∧ second ≤ 60 then
    -- the leap second shares its count with the second before it
    let counted := min second 59
    some ⟨86400 * date.dayNumber + 3600 * hour + 60 * minute + counted - offset, nanosecond,
      second = 60⟩
  else none

/-- Reads a timestamp as RFC 3339 defines it: four digits of year, a `T`, a `t` or a space between
date and time, an optional fraction, and an offset. -/
def ofTimestampChars? : List Char → Option Instant
  | y :: y' :: y'' :: y''' :: '-' :: m :: m' :: '-' :: d :: d' :: separator ::
      h :: h' :: ':' :: n :: n' :: ':' :: s :: s' :: rest => do
    let century ← twoDigits y y'
    let year ← twoDigits y'' y'''
    let month ← twoDigits m m'
    let day ← twoDigits d d'
    if separator ≠ 'T' ∧ separator ≠ 't' ∧ separator ≠ ' ' then none
    let hour ← twoDigits h h'
    let minute ← twoDigits n n'
    let second ← twoDigits s s'
    let (nanosecond, rest) ← spanFraction rest
    let offset ← readOffset rest
    ofCivil? ⟨100 * century + year, month, day⟩ hour minute second nanosecond offset
  | _ => none

/-- Reads a timestamp as RFC 3339 defines it. -/
def ofTimestamp? (s : String) : Option Instant :=
  ofTimestampChars? s.toList

end Instant

end SearchDomain
