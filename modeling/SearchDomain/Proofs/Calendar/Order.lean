/-
  SearchDomain.Proofs.Calendar.Order

  Days and instants in order. A day of the calendar comes before another exactly
  when it has the smaller count: the days of a year are counted between the start
  of that year and the start of the next, and those of a month behind the months
  that are over. The day before a day is one less in this count, and with it the
  greatest of all days that come earlier.
-/
import SearchDomain.Calendar.Instant
import SearchDomain.Proofs.Calendar.Date

namespace SearchDomain

namespace Date

instance : LT Date := ⟨fun a b => a.isBefore b = true⟩

instance : LE Date := ⟨fun a b => ¬b < a⟩

instance (a b : Date) : Decidable (a < b) :=
  inferInstanceAs (Decidable (_ = true))

instance (a b : Date) : Decidable (a ≤ b) :=
  inferInstanceAs (Decidable (¬_))

theorem lt_iff {a b : Date} :
    a < b ↔ a.year < b.year ∨ a.year = b.year ∧ (a.month < b.month ∨
      a.month = b.month ∧ a.day < b.day) := by
  show a.isBefore b = true ↔ _
  simp only [isBefore, Bool.or_eq_true, Bool.and_eq_true, decide_eq_true_eq]

/-- Of two days, one comes before the other, or they are one and the same. -/
theorem lt_trichotomy (a b : Date) : a < b ∨ a = b ∨ b < a := by
  obtain ⟨year, month, day⟩ := a
  obtain ⟨year', month', day'⟩ := b
  rw [lt_iff, lt_iff, Date.mk.injEq]
  dsimp only
  omega

/-! ## Months that are over -/

variable {lengths : List Nat}

/-- One month more is over. -/
theorem totalDays_take_succ (lengths : List Nat) (index : Nat) :
    totalDays (lengths.take (index + 1)) =
      totalDays (lengths.take index) + lengths.getD index 0 := by
  induction lengths generalizing index with
  | nil => rw [List.take_nil, List.take_nil, List.getD_nil, Nat.add_zero]
  | cons length lengths ih =>
    cases index with
    | zero => simp [totalDays]
    | succ index =>
      rw [List.take_succ_cons, List.take_succ_cons, totalDays, totalDays, ih,
        List.getD_cons_succ, Nat.add_assoc]

theorem totalDays_take_mono {i j : Nat} (h : i ≤ j) :
    totalDays (lengths.take i) ≤ totalDays (lengths.take j) := by
  induction h with
  | refl => exact Nat.le_refl _
  | step _ ih =>
    rw [totalDays_take_succ]
    exact Nat.le_trans ih (Nat.le_add_right _ _)

/-- A month and the days of it are over when the next month begins. -/
theorem monthStart_succ (year : Int) {month : Nat} (h : 1 ≤ month) :
    monthStart (isLeapYear year) (month + 1) =
      monthStart (isLeapYear year) month + daysInMonth year month := by
  obtain ⟨index, rfl⟩ : ∃ index, month = index + 1 := ⟨month - 1, by omega⟩
  rw [monthStart_eq_totalDays, monthStart_eq_totalDays, daysInMonth, Nat.add_sub_cancel,
    Nat.add_sub_cancel, totalDays_take_succ]

theorem monthStart_mono (leap : Bool) {month later : Nat} (h : month ≤ later) :
    monthStart leap month ≤ monthStart leap later := by
  rw [monthStart_eq_totalDays, monthStart_eq_totalDays]
  exact totalDays_take_mono (Nat.sub_le_sub_right h 1)

/-- All months of a year are over when the year is. -/
theorem monthStart_thirteen (leap : Bool) :
    monthStart leap 13 = totalDays (monthLengths leap) := by
  rw [monthStart_eq_totalDays]
  cases leap with
  | false => rfl
  | true => rfl

/-! ## Counts in order -/

theorem yearStart_mono {year later : Int} (h : year ≤ later) :
    yearStart year ≤ yearStart later := by
  rw [yearStart, yearStart]
  omega

variable {a b : Date}

/-- A day is counted before the next month begins. -/
theorem monthStart_add_day_le (ha : a.IsValid) :
    monthStart (isLeapYear a.year) a.month + a.day ≤
      monthStart (isLeapYear a.year) (a.month + 1) := by
  rw [monthStart_succ a.year ha.1]
  exact Nat.add_le_add_left ha.2.2.2 _

/-- A day is counted between the start of its year and that of the next. -/
theorem dayNumber_between (ha : a.IsValid) :
    yearStart a.year ≤ a.dayNumber + epochStart ∧
      a.dayNumber + epochStart < yearStart (a.year + 1) := by
  have hmonth := monthStart_add_day_le ha
  have hyear : monthStart (isLeapYear a.year) (a.month + 1) ≤
      totalDays (monthLengths (isLeapYear a.year)) := by
    rw [← monthStart_thirteen]
    exact monthStart_mono _ (Nat.succ_le_succ ha.2.1)
  have hday : 1 ≤ a.day := ha.2.2.1
  rw [yearStart_succ, dayNumber]
  omega

theorem dayNumber_lt_of_lt (ha : a.IsValid) (hb : b.IsValid) (h : a < b) :
    a.dayNumber < b.dayNumber := by
  obtain ⟨year, month, day⟩ := a
  obtain ⟨year', month', day'⟩ := b
  rcases lt_iff.1 h with hyear | ⟨hyear, hmonth | ⟨hmonth, hday⟩⟩
  · -- the year of the one is over when that of the other begins
    have hstart : yearStart (year + 1) ≤ yearStart year' :=
      yearStart_mono (Int.add_one_le_of_lt hyear)
    have hbefore := (dayNumber_between ha).2
    have hafter := (dayNumber_between hb).1
    dsimp only at hbefore hafter
    omega
  · dsimp only at hyear hmonth
    subst hyear
    have hover := monthStart_add_day_le ha
    have hstart : monthStart (isLeapYear year) (month + 1) ≤ monthStart (isLeapYear year) month' :=
      monthStart_mono _ hmonth
    have hday' : 1 ≤ day' := hb.2.2.1
    dsimp only at hover
    rw [dayNumber, dayNumber]
    dsimp only
    omega
  · dsimp only at hyear hmonth hday
    subst hyear hmonth
    rw [dayNumber, dayNumber]
    dsimp only
    omega

/-- Days of the calendar stand in the order of their counts. -/
theorem lt_iff_dayNumber_lt (ha : a.IsValid) (hb : b.IsValid) :
    a < b ↔ a.dayNumber < b.dayNumber := by
  refine ⟨dayNumber_lt_of_lt ha hb, fun h => ?_⟩
  rcases lt_trichotomy a b with hlt | rfl | hlt
  · exact hlt
  · exact absurd h (Int.lt_irrefl _)
  · have hgreater := dayNumber_lt_of_lt hb ha hlt
    omega

theorem le_iff_dayNumber_le (ha : a.IsValid) (hb : b.IsValid) :
    a ≤ b ↔ a.dayNumber ≤ b.dayNumber := by
  show ¬b < a ↔ _
  rw [lt_iff_dayNumber_lt hb ha, Int.not_lt]

theorem eq_of_dayNumber_eq (ha : a.IsValid) (hb : b.IsValid) (h : a.dayNumber = b.dayNumber) :
    a = b := by
  rcases lt_trichotomy a b with hlt | heq | hlt
  · have hless := dayNumber_lt_of_lt ha hb hlt
    omega
  · exact heq
  · have hless := dayNumber_lt_of_lt hb ha hlt
    omega

/-- A day of the calendar is found again from its count. -/
theorem ofDayNumber_dayNumber (ha : a.IsValid) : ofDayNumber a.dayNumber = a :=
  eq_of_dayNumber_eq (ofDayNumber_spec _).1 ha (ofDayNumber_spec _).2

/-! ## Supported days -/

/-- The days of the calendar that can be stated: those from the least to the greatest. -/
structure IsSupported (d : Date) : Prop where
  isValid : d.IsValid
  least_le : least ≤ d
  le_greatest : d ≤ greatest

theorem isValid_least : least.IsValid := by decide

theorem isValid_greatest : greatest.IsValid := by decide

/-- Whether a day is the last of those that come before another. -/
structure IsDayBefore (d next : Date) : Prop where
  isSupported : d.IsSupported
  lt : d < next
  greatest_of_lt : ∀ other : Date, other.IsValid → other < next → other ≤ d

/-- Each day but the least has one before it, which is one less in the count. -/
theorem exists_pred? (ha : a.IsValid) (hne : a ≠ least) :
    ∃ d, a.pred? = some d ∧ d.IsValid ∧ d.dayNumber + 1 = a.dayNumber := by
  obtain ⟨year, month, day⟩ := a
  obtain ⟨hfirst, hlast, hday, hlength⟩ := ha
  dsimp only at hfirst hlast hday hlength
  rw [pred?, if_neg hne]
  dsimp only
  by_cases hinside : 1 < day
  · -- within the month
    refine ⟨_, if_pos hinside, ⟨hfirst, hlast, ?_, ?_⟩, ?_⟩
    · show 1 ≤ day - 1
      omega
    · show day - 1 ≤ daysInMonth year month
      omega
    · rw [dayNumber, dayNumber]
      dsimp only
      omega
  rw [if_neg hinside]
  by_cases hmonth : 1 < month
  · -- the last day of the month before
    have hpositive : ∀ index < 12, ∀ leap : Bool, 1 ≤ (monthLengths leap).getD index 0 := by decide
    have hbefore : 1 ≤ month - 1 := by omega
    have hstart := monthStart_succ year hbefore
    rw [Nat.sub_add_cancel hfirst] at hstart
    refine ⟨_, if_pos hmonth, ⟨hbefore, ?_, ?_, Nat.le_refl _⟩, ?_⟩
    · show month - 1 ≤ 12
      omega
    · exact hpositive (month - 1 - 1) (by omega) (isLeapYear year)
    · rw [dayNumber, dayNumber]
      dsimp only
      omega
  · -- the last day of the year before
    have hjanuary : month = 1 := by omega
    subst hjanuary
    have hyear := yearStart_succ (year - 1)
    rw [Int.sub_add_cancel, ← monthStart_thirteen, monthStart_succ (year - 1) (by decide)] at hyear
    have hdecember : daysInMonth (year - 1) 12 = 31 := by
      rw [daysInMonth]
      cases isLeapYear (year - 1) with
      | false => rfl
      | true => rfl
    have hnothing : monthStart (isLeapYear year) 1 = 0 := rfl
    have hvalid : IsValid ⟨year - 1, 12, 31⟩ :=
      ⟨Nat.succ_pos 11, Nat.le_refl 12, Nat.succ_pos 30, Nat.le_of_eq hdecember.symm⟩
    refine ⟨_, if_neg hmonth, hvalid, ?_⟩
    rw [dayNumber, dayNumber]
    dsimp only
    omega

/-- Each supported day but the least has a supported day before it. -/
theorem exists_isDayBefore (ha : a.IsSupported) (hne : a ≠ least) :
    ∃ d, a.pred? = some d ∧ d.IsDayBefore a := by
  obtain ⟨d, hpred, hvalid, hcount⟩ := exists_pred? ha.isValid hne
  have hleast : least.dayNumber < a.dayNumber := by
    have hle := (le_iff_dayNumber_le isValid_least ha.isValid).1 ha.least_le
    have hcounts : least.dayNumber ≠ a.dayNumber :=
      fun h => hne (eq_of_dayNumber_eq isValid_least ha.isValid h).symm
    omega
  have hgreatest := (le_iff_dayNumber_le ha.isValid isValid_greatest).1 ha.le_greatest
  refine ⟨d, hpred, ⟨hvalid, ?_, ?_⟩, ?_, fun other hother hlt => ?_⟩
  · rw [le_iff_dayNumber_le isValid_least hvalid]
    omega
  · rw [le_iff_dayNumber_le hvalid isValid_greatest]
    omega
  · rw [lt_iff_dayNumber_lt hvalid ha.isValid]
    omega
  · rw [lt_iff_dayNumber_lt hother ha.isValid] at hlt
    rw [le_iff_dayNumber_le hother hvalid]
    omega

end Date

/-! ## Instants -/

namespace Instant

/-- How far an instant lies behind the beginning of its second, in nanoseconds. A leap second goes
on from the second before it. -/
def sinceSecond (t : Instant) : Nat :=
  t.nanosecond + if t.leap then 1000000000 else 0

instance : LE Instant :=
  ⟨fun t u => t.second < u.second ∨ t.second = u.second ∧ t.sinceSecond ≤ u.sinceSecond⟩

/-- Midnight is the beginning of a day in universal time. -/
theorem civil_midnight {d : Date} (hd : d.IsValid) : (midnight d).civil = (d, 0, 0, 0) := by
  have hday : 86400 * d.dayNumber / 86400 = d.dayNumber := by omega
  have hsecond : (86400 * d.dayNumber % 86400).toNat = 0 := by omega
  simp only [civil, midnight, ofSeconds, hday, hsecond, Date.ofDayNumber_dayNumber hd]
  rfl

/-- Midnights stand in the order of their days. -/
theorem midnight_le_midnight_iff {a b : Date} (ha : a.IsValid) (hb : b.IsValid) :
    midnight a ≤ midnight b ↔ a ≤ b := by
  rw [Date.le_iff_dayNumber_le ha hb]
  show 86400 * a.dayNumber < 86400 * b.dayNumber ∨
    86400 * a.dayNumber = 86400 * b.dayNumber ∧ 0 ≤ 0 ↔ a.dayNumber ≤ b.dayNumber
  omega

end Instant

end SearchDomain
