/-
  SearchDomain.Proofs.Calendar.Date

  Days and their counts. A count of days lies between the starts of two years
  that follow one another; the months of the year then split what is left, so that
  each count belongs to a day of the calendar, and that day has this count.
-/
import SearchDomain.Calendar.Date

namespace SearchDomain.Date

/-- The days of several months. -/
def totalDays : List Nat → Nat
  | [] => 0
  | length :: lengths => length + totalDays lengths

/-! ## Years -/

/-- A year is 365 days long, or one day longer if it is a leap year. -/
theorem yearStart_succ (year : Int) :
    yearStart (year + 1) = yearStart year + totalDays (monthLengths (isLeapYear year)) := by
  have hlength : (totalDays (monthLengths (isLeapYear year)) : Int) =
      365 + if isLeapYear year then 1 else 0 := by
    cases isLeapYear year <;> rfl
  have hleap : isLeapYear year = true ↔ year % 4 = 0 ∧ (year % 100 ≠ 0 ∨ year % 400 = 0) := by
    simp [isLeapYear]
  rw [hlength, yearStart, yearStart]
  by_cases h : isLeapYear year = true
  · rw [if_pos h]
    rw [hleap] at h
    omega
  · rw [if_neg h]
    rw [hleap] at h
    omega

/-- A day lies between the start of its year and that of the next. -/
theorem yearStart_yearOf (days : Int) :
    yearStart (yearOf days) ≤ days ∧ days < yearStart (yearOf days + 1) := by
  -- the guess is at most one year off on either side
  have hlower : yearStart (days * 400 / 146097 + 1 - 1) ≤ days := by
    rw [yearStart]
    omega
  have hupper : days < yearStart (days * 400 / 146097 + 1 + 1 + 1) := by
    rw [yearStart]
    omega
  unfold yearOf
  dsimp only
  split
  next hbefore =>
    refine ⟨hlower, ?_⟩
    rw [Int.sub_add_cancel]
    exact hbefore
  next hbefore =>
    split
    next hafter => exact ⟨hafter, hupper⟩
    next hafter => omega

/-! ## Months -/

/-- Days that lie within some months are split into whole months and days of the next. -/
theorem monthOf_of_lt (lengths : List Nat) (month : Nat) {rest : Nat}
    (h : rest < totalDays lengths) :
    ∃ index day, monthOf lengths month rest = (month + index, day + 1) ∧
      index < lengths.length ∧ day < lengths.getD index 0 ∧
      rest = totalDays (lengths.take index) + day := by
  induction lengths generalizing month rest with
  | nil => exact absurd h (Nat.not_lt_zero rest)
  | cons length lengths ih =>
    rw [monthOf]
    by_cases hfirst : rest < length
    · refine ⟨0, rest, if_pos hfirst, Nat.succ_pos _, hfirst, ?_⟩
      rw [List.take_zero, totalDays, Nat.zero_add]
    · -- the month is over, and the rest is looked for in those behind it
      rw [totalDays] at h
      have hrest : rest - length < totalDays lengths := by omega
      obtain ⟨index, day, hmonth, hindex, hday, hsplit⟩ := ih (month + 1) hrest
      refine ⟨index + 1, day, ?_, Nat.succ_lt_succ hindex, hday, ?_⟩
      · rw [if_neg hfirst, hmonth, Nat.add_assoc, Nat.add_comm 1 index]
      · rw [List.take_succ_cons, totalDays]
        omega

theorem foldl_add_eq_totalDays (lengths : List Nat) (n : Nat) :
    lengths.foldl (· + ·) n = n + totalDays lengths := by
  induction lengths generalizing n with
  | nil => rfl
  | cons length lengths ih => rw [List.foldl_cons, ih, totalDays, Nat.add_assoc]

theorem monthStart_eq_totalDays (leap : Bool) (month : Nat) :
    monthStart leap month = totalDays ((monthLengths leap).take (month - 1)) := by
  rw [monthStart, foldl_add_eq_totalDays, Nat.zero_add]

theorem daysInMonth_le (year : Int) (month : Nat) : daysInMonth year month ≤ 31 := by
  have hall : ∀ leap : Bool, ∀ length ∈ monthLengths leap, length ≤ 31 := by decide
  rw [daysInMonth, List.getD_eq_getElem?_getD]
  cases hlength : (monthLengths (isLeapYear year))[month - 1]? with
  | none => exact Nat.zero_le 31
  | some length => exact hall _ length (List.mem_of_getElem? hlength)

/-! ## Days -/

/-- The day with a count is a day of the calendar and has that count. -/
theorem ofDayNumber_spec (n : Int) : (ofDayNumber n).IsValid ∧ (ofDayNumber n).dayNumber = n := by
  obtain ⟨hstart, hend⟩ := yearStart_yearOf (n + epochStart)
  rw [yearStart_succ] at hend
  -- what is left of the count within the year is split by months
  have hrest : (n + epochStart - yearStart (yearOf (n + epochStart))).toNat <
      totalDays (monthLengths (isLeapYear (yearOf (n + epochStart)))) := by omega
  obtain ⟨index, day, hmonth, hindex, hday, hsplit⟩ := monthOf_of_lt _ 1 hrest
  have hdate : ofDayNumber n = ⟨yearOf (n + epochStart), 1 + index, day + 1⟩ := by
    rw [ofDayNumber, hmonth]
  have hlength : (monthLengths (isLeapYear (yearOf (n + epochStart)))).length = 12 := rfl
  rw [hdate]
  constructor
  · refine ⟨Nat.le_add_right 1 index, ?_, Nat.succ_pos day, ?_⟩
    · rw [hlength] at hindex
      show 1 + index ≤ 12
      omega
    · show day + 1 ≤ daysInMonth (yearOf (n + epochStart)) (1 + index)
      rw [daysInMonth, Nat.add_sub_cancel_left]
      exact hday
  · show yearStart (yearOf (n + epochStart)) +
      monthStart (isLeapYear (yearOf (n + epochStart))) (1 + index) + ((day + 1 : Nat) - 1) -
        epochStart = n
    rw [monthStart_eq_totalDays, Nat.add_sub_cancel_left]
    omega

end SearchDomain.Date
