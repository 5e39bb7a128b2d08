/-
  SearchDomain.Calendar.Date

  Days of the proleptic Gregorian calendar, their order, the day before a day,
  and the count of days since 1970-01-01 in both directions.
-/
namespace SearchDomain

/-- A day of the calendar. Year 0 stands before year 1. -/
structure Date where
  year : Int
  month : Nat
  day : Nat
deriving DecidableEq, Repr

namespace Date

/-! ## The calendar -/

def isLeapYear (year : Int) : Bool :=
  year % 4 = 0 && (year % 100 ≠ 0 || year % 400 = 0)

/-- The lengths of the months in order. -/
def monthLengths (leap : Bool) : List Nat :=
  [31, if leap then 29 else 28, 31, 30, 31, 30, 31, 31, 30, 31, 30, 31]

/-- How many days a month has, months counted from one. -/
def daysInMonth (year : Int) (month : Nat) : Nat :=
  (monthLengths (isLeapYear year)).getD (month - 1) 0

/-- Whether the calendar has such a day. -/
def IsValid (d : Date) : Prop :=
  1 ≤ d.month ∧ d.month ≤ 12 ∧ 1 ≤ d.day ∧ d.day ≤ daysInMonth d.year d.month

instance (d : Date) : Decidable d.IsValid :=
  inferInstanceAs (Decidable (_ ∧ _))

/-- The first day that is supported. -/
def least : Date := ⟨-262143, 1, 1⟩

/-- The last day that is supported. -/
def greatest : Date := ⟨262142, 12, 31⟩

/-- Whether one day comes before another. -/
def isBefore (a b : Date) : Bool :=
  a.year < b.year ||
    (a.year = b.year && (a.month < b.month || (a.month = b.month && a.day < b.day)))

/-- The day before, if it is supported. -/
def pred? (d : Date) : Option Date :=
  if d = least then none
  else if 1 < d.day then some ⟨d.year, d.month, d.day - 1⟩
  else if 1 < d.month then some ⟨d.year, d.month - 1, daysInMonth d.year (d.month - 1)⟩
  else some ⟨d.year - 1, 12, 31⟩

/-! ## Counting days -/

/-- Days from the first day of year 1 to the first day of a year. -/
def yearStart (year : Int) : Int :=
  365 * (year - 1) + (year - 1) / 4 - (year - 1) / 100 + (year - 1) / 400

/-- Days from the first day of year 1 to 1970-01-01. -/
def epochStart : Int := 719162

/-- Days of a year that come before a month. -/
def monthStart (leap : Bool) (month : Nat) : Nat :=
  ((monthLengths leap).take (month - 1)).foldl (· + ·) 0

/-- Days since 1970-01-01. -/
def dayNumber (d : Date) : Int :=
  yearStart d.year + monthStart (isLeapYear d.year) d.month + (d.day - 1) - epochStart

/-- The year in which a day lies, days counted from the first day of year 1. The guess from the
mean length of a year misses by one at most. -/
def yearOf (days : Int) : Int :=
  let guess := days * 400 / 146097 + 1
  if days < yearStart guess then guess - 1
  else if yearStart (guess + 1) ≤ days then guess + 1
  else guess

/-- The month, counted from `month`, and the day in it of a day of the year. -/
def monthOf : List Nat → Nat → Nat → Nat × Nat
  | [], month, rest => (month, rest + 1)
  | length :: lengths, month, rest =>
    if rest < length then (month, rest + 1) else monthOf lengths (month + 1) (rest - length)

/-- The day with a count of days since 1970-01-01. -/
def ofDayNumber (n : Int) : Date :=
  let days := n + epochStart
  let year := yearOf days
  let found := monthOf (monthLengths (isLeapYear year)) 1 (days - yearStart year).toNat
  ⟨year, found.1, found.2⟩

end Date

end SearchDomain
