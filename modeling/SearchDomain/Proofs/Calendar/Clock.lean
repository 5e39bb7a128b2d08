/-
  SearchDomain.Proofs.Calendar.Clock

  What a clock shows of an instant: a day, a time of day, and how far the clock is
  ahead of universal time. Numbers are shown padded with zeros to a fixed width and
  read two digits at a time. Main statement: the reader of timestamps takes what a
  clock of the years 0 to 9999 shows and nothing else, up to the fraction.
-/
import SearchDomain.Calendar.Instant
import SearchDomain.Proofs.Calendar.Date
import SearchDomain.Proofs.Number.Digits

namespace SearchDomain

namespace Digits

/-- Zeros in front do not count. -/
theorem toNat_replicate_append (k : Nat) (ds : List Char) :
    toNat (List.replicate k '0' ++ ds) = toNat ds := by
  induction k with
  | zero => rfl
  | succ k ih => exact ih

end Digits

namespace Instant

/-! ## Padded numbers -/

variable {width n : Nat}

theorem length_padded (hwidth : 0 < width) (h : n < Nat.pow 10 width) :
    (padded width n).length = width := by
  have hdigits : (Nat.toDigits 10 n).length ≤ width :=
    (Nat.length_toDigits_le_iff (by decide) hwidth).2 h
  rw [padded, List.length_append, List.length_replicate]
  omega

theorem toNat_padded (width n : Nat) : Digits.toNat (padded width n) = n := by
  rw [padded, Digits.toNat_replicate_append, Digits.toNat_toDigits]

theorem isDigit_of_mem_padded {c : Char} (h : c ∈ padded width n) : c.isDigit = true := by
  rcases List.mem_append.1 h with hzero | hdigit
  · rw [List.eq_of_mem_replicate hzero]
    rfl
  · exact Digits.isDigit_of_mem_toDigits hdigit

/-- Two digits are read as the number that they are when it is padded. -/
theorem twoDigits_eq_some_iff {a b : Char} {n : Nat} :
    twoDigits a b = some n ↔ n < 100 ∧ padded 2 n = [a, b] := by
  constructor
  · intro h
    rw [twoDigits, Option.ite_none_right_eq_some] at h
    obtain ⟨⟨ha, hb⟩, ⟨rfl⟩⟩ := h
    have hlt : Digits.toNat [a, b] < 100 := by
      have hvalueA := Digits.value_lt ha
      have hvalueB := Digits.value_lt hb
      show 10 * (10 * 0 + Digits.value a) + Digits.value b < 100
      omega
    refine ⟨hlt, Digits.toNat_inj (fun c => isDigit_of_mem_padded) ?_ ?_ (toNat_padded 2 _)⟩
    · simp only [List.mem_cons, List.not_mem_nil, or_false, forall_eq_or_imp, forall_eq]
      exact ⟨ha, hb⟩
    · exact length_padded (by decide) hlt
  · rintro ⟨-, hpair⟩
    have hdigit : ∀ c ∈ [a, b], c.isDigit = true := by
      rw [← hpair]
      exact fun c => isDigit_of_mem_padded
    rw [twoDigits, if_pos ⟨hdigit a (by simp), hdigit b (by simp)⟩, ← hpair, toNat_padded]

/-- A number below a hundred is two digits that spell it. -/
theorem exists_twoDigits (h : n < 100) :
    ∃ a b, twoDigits a b = some n := by
  obtain ⟨a, b, hpair⟩ : ∃ a b, padded 2 n = [a, b] := by
    have hlength := length_padded (by decide : 0 < 2) h
    match hdigits : padded 2 n, hlength with
    | [a, b], _ => exact ⟨a, b, rfl⟩
  exact ⟨a, b, twoDigits_eq_some_iff.2 ⟨h, hpair⟩⟩

/-- Four digits are two for the hundreds and two for the rest. -/
theorem padded_four {hundreds rest : Nat} (hhundreds : hundreds < 100) (hrest : rest < 100) :
    padded 4 (100 * hundreds + rest) = padded 2 hundreds ++ padded 2 rest := by
  have hfront : (padded 2 hundreds).length = 2 := length_padded (by decide) hhundreds
  have hback : (padded 2 rest).length = 2 := length_padded (by decide) hrest
  refine Digits.toNat_inj (fun c => isDigit_of_mem_padded) ?_ ?_ ?_
  · intro c hc
    rcases List.mem_append.1 hc with hc | hc
    · exact isDigit_of_mem_padded hc
    · exact isDigit_of_mem_padded hc
  · rw [List.length_append, hfront, hback]
    refine length_padded (by decide) ?_
    show 100 * hundreds + rest < 10000
    omega
  · have hundred : Nat.pow 10 2 = 100 := rfl
    rw [Digits.toNat_append, hback, hundred, toNat_padded, toNat_padded, toNat_padded]

theorem yearText_of_written {year : Int} (hfirst : 0 ≤ year) (hlast : year ≤ 9999) :
    yearText year = padded 4 year.toNat := by
  have hcount : year.natAbs = year.toNat := by omega
  rw [yearText, if_neg (Int.not_lt.2 hfirst), if_neg (Int.not_lt.2 hlast), hcount]

end Instant

/-! ## Clocks -/

/-- A day and a time of day, and how many seconds the clock that shows them is ahead of universal
time. -/
structure ClockTime where
  date : Date
  hour : Nat
  minute : Nat
  second : Nat
  offset : Int

namespace ClockTime

open Instant

/-- What a clock can show. Any minute may end in a leap second. -/
structure IsProper (a : ClockTime) : Prop where
  isValid : a.date.IsValid
  hour_le : a.hour ≤ 23
  minute_le : a.minute ≤ 59
  second_le : a.second ≤ 60

/-- The second in universal time since 1970-01-01. A leap second counts as the second before it. -/
def utcSecond (a : ClockTime) : Int :=
  86400 * a.date.dayNumber + 3600 * a.hour + 60 * a.minute + (min a.second 59 : Nat) - a.offset

/-- The instant that is so many nanoseconds behind the time shown. -/
def instant (a : ClockTime) (nanosecond : Nat) : Instant :=
  ⟨a.utcSecond, nanosecond, a.second = 60⟩

/-- Day and time as a timestamp has them up to the fraction. -/
def face (a : ClockTime) (separator : Char) : List Char :=
  yearText a.date.year ++ '-' :: padded 2 a.date.month ++ '-' :: padded 2 a.date.day ++
    separator :: padded 2 a.hour ++ ':' :: padded 2 a.minute ++ ':' :: padded 2 a.second

/-- Whether four digits are enough for the year. -/
structure IsWritten (a : ClockTime) : Prop where
  year_nonneg : 0 ≤ a.date.year
  year_le : a.date.year ≤ 9999

/-- Whether a character may stand between the day and the time. -/
def IsSeparator (c : Char) : Prop :=
  c = 'T' ∨ c = 't' ∨ c = ' '

variable {a : ClockTime} {nanosecond : Nat}

theorem ofCivil?_eq_some_iff {t : Instant} :
    ofCivil? a.date a.hour a.minute a.second nanosecond a.offset = some t ↔
      a.IsProper ∧ t = a.instant nanosecond := by
  rw [ofCivil?, Option.ite_none_right_eq_some, Option.some_inj]
  constructor
  · rintro ⟨⟨hdate, hhour, hminute, hsecond⟩, rfl⟩
    exact ⟨⟨hdate, hhour, hminute, hsecond⟩, rfl⟩
  · rintro ⟨⟨hdate, hhour, hminute, hsecond⟩, rfl⟩
    exact ⟨⟨hdate, hhour, hminute, hsecond⟩, rfl⟩

/-- The digits that spell the numbers of a clock stand on its face. -/
theorem face_eq {y y' x x' m m' d d' h h' n n' s s' : Char}
    {century year month day hour minute second : Nat}
    (hcentury : twoDigits y y' = some century) (hyear : twoDigits x x' = some year)
    (hmonth : twoDigits m m' = some month) (hday : twoDigits d d' = some day)
    (hhour : twoDigits h h' = some hour) (hminute : twoDigits n n' = some minute)
    (hsecond : twoDigits s s' = some second) (offset : Int) (separator : Char) :
    face ⟨⟨100 * century + year, month, day⟩, hour, minute, second, offset⟩ separator =
      [y, y', x, x', '-', m, m', '-', d, d', separator, h, h', ':', n, n', ':', s, s'] := by
  obtain ⟨hcenturyLt, hcentury⟩ := twoDigits_eq_some_iff.1 hcentury
  obtain ⟨hyearLt, hyear⟩ := twoDigits_eq_some_iff.1 hyear
  have hfour : yearText (100 * century + year) = [y, y', x, x'] := by
    have hcount : (100 * (century : Int) + year).toNat = 100 * century + year := by omega
    rw [yearText_of_written (by omega) (by omega), hcount, padded_four hcenturyLt hyearLt,
      hcentury, hyear]
    rfl
  rw [face, hfour, (twoDigits_eq_some_iff.1 hmonth).2, (twoDigits_eq_some_iff.1 hday).2,
    (twoDigits_eq_some_iff.1 hhour).2, (twoDigits_eq_some_iff.1 hminute).2,
    (twoDigits_eq_some_iff.1 hsecond).2]
  rfl

/-- A face is read number by number, and what stands behind it as fraction and offset. -/
theorem ofTimestampChars?_face (ha : a.IsProper) (hwritten : a.IsWritten) {separator : Char}
    (hseparator : IsSeparator separator) {rest offsetText : List Char}
    (hfraction : spanFraction rest = some (nanosecond, offsetText))
    (hoffset : readOffset offsetText = some a.offset) :
    ofTimestampChars? (a.face separator ++ rest) = some (a.instant nanosecond) := by
  have hcivil := ofCivil?_eq_some_iff.2 ⟨ha, @rfl _ (a.instant nanosecond)⟩
  obtain ⟨⟨year, month, day⟩, hour, minute, second, offset⟩ := a
  obtain ⟨⟨-, hmonthLe, -, hdayLe⟩, hhourLe, hminuteLe, hsecondLe⟩ := ha
  obtain ⟨hnonneg, hyearLe⟩ := hwritten
  dsimp only at *
  have hshort : day < 100 := by
    have hlong := Date.daysInMonth_le year month
    omega
  obtain ⟨century, yearRest, rfl, hcenturyLt, hrestLt⟩ :
      ∃ century yearRest : Nat, year = 100 * century + yearRest ∧ century < 100 ∧ yearRest < 100 :=
    ⟨(year / 100).toNat, (year % 100).toNat, by omega, by omega, by omega⟩
  obtain ⟨y, y', hcentury⟩ := exists_twoDigits hcenturyLt
  obtain ⟨x, x', hyear⟩ := exists_twoDigits hrestLt
  obtain ⟨m, m', hmonth⟩ := exists_twoDigits (n := month) (by omega)
  obtain ⟨d, d', hday⟩ := exists_twoDigits hshort
  obtain ⟨h, h', hhour⟩ := exists_twoDigits (n := hour) (by omega)
  obtain ⟨n, n', hminute⟩ := exists_twoDigits (n := minute) (by omega)
  obtain ⟨s, s', hsecond⟩ := exists_twoDigits (n := second) (by omega)
  have hother : ¬(separator ≠ 'T' ∧ separator ≠ 't' ∧ separator ≠ ' ') := by
    rintro ⟨hT, ht, hspace⟩
    exact hseparator.elim hT fun h => h.elim ht hspace
  rw [face_eq hcentury hyear hmonth hday hhour hminute hsecond]
  simp only [List.cons_append, List.nil_append, ofTimestampChars?, hcentury, hyear, hmonth, hday,
    if_neg hother, hhour, hminute, hsecond, hfraction, hoffset, Option.bind_eq_bind,
    Option.bind_some]
  exact hcivil

/-- What is read begins with a face. -/
theorem exists_face_of_ofTimestampChars? {cs : List Char} {t : Instant}
    (hread : ofTimestampChars? cs = some t) :
    ∃ (a : ClockTime) (separator : Char) (rest offsetText : List Char) (nanosecond : Nat),
      a.IsProper ∧ a.IsWritten ∧ IsSeparator separator ∧ cs = a.face separator ++ rest ∧
      spanFraction rest = some (nanosecond, offsetText) ∧
      readOffset offsetText = some a.offset := by
  unfold ofTimestampChars? at hread
  split at hread
  next _ y y' x x' m m' d d' separator h h' n n' s s' rest =>
    simp only [Option.bind_eq_bind, Option.bind_eq_some_iff] at hread
    obtain ⟨century, hcentury, year, hyear, month, hmonth, day, hday, hread⟩ := hread
    split at hread
    next => cases hread
    next hseparator =>
      simp only [Option.bind_eq_some_iff] at hread
      obtain ⟨hour, hhour, minute, hminute, second, hsecond, ⟨nanosecond, offsetText⟩, hfraction,
        offset, hoffset, hcivil⟩ := hread
      refine ⟨⟨⟨100 * century + year, month, day⟩, hour, minute, second, offset⟩, separator, rest,
        offsetText, nanosecond, (ofCivil?_eq_some_iff.1 hcivil).1, ⟨?_, ?_⟩, ?_, ?_, hfraction,
        hoffset⟩
      · show 0 ≤ 100 * (century : Int) + year
        omega
      · have hcenturyLt := (twoDigits_eq_some_iff.1 hcentury).1
        have hyearLt := (twoDigits_eq_some_iff.1 hyear).1
        show 100 * (century : Int) + year ≤ 9999
        omega
      · by_contra hother
        rw [IsSeparator, not_or, not_or] at hother
        exact hseparator hother
      · rw [face_eq hcentury hyear hmonth hday hhour hminute hsecond]
        rfl
  next => cases hread

end ClockTime

end SearchDomain
