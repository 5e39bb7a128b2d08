/-
  SearchDomain.Proofs.Calendar.Timestamp

  Instants written as RFC 3339 has them and read again. A clock that keeps
  universal time shows all of an instant but its nanoseconds; these are written
  behind as a fraction, which is left out when it is zero. Main statement: an
  instant of the years 0 to 9999 is read back from its text in universal time, its
  nanoseconds and a leap second included.
-/
import SearchDomain.Proofs.Calendar.Clock

namespace SearchDomain

namespace Instant

/-! ## Texts of instants -/

/-- The fraction of a second in nine digits, or nothing if it is zero. -/
def fractionText (nanosecond : Nat) : List Char :=
  if nanosecond = 0 then [] else '.' :: padded 9 nanosecond

/-- An instant in universal time as RFC 3339 has it. -/
def rfc3339 (t : Instant) : String :=
  let (date, hour, minute, second) := t.civil
  String.ofList <|
    padded 4 date.year.toNat ++ '-' :: padded 2 date.month ++ '-' :: padded 2 date.day ++
      'T' :: padded 2 hour ++ ':' :: padded 2 minute ++ ':' :: padded 2 second ++
      fractionText t.nanosecond ++ ['Z']

/-- Instants that RFC 3339 has a text for: a year of four digits, a fraction below a second, and a
leap second only behind the last second of a minute. -/
structure IsWritable (t : Instant) : Prop where
  year_nonneg : 0 ≤ t.civil.1.year
  year_le : t.civil.1.year ≤ 9999
  nanosecond_lt : t.nanosecond < 1000000000
  leap_second : t.leap = true → t.second % 60 = 59

/-- Digits behind a point are the fraction, up to what is no digit. -/
theorem spanFraction_point {ds rest : List Char} (hne : ds ≠ [])
    (hdigits : ∀ c ∈ ds, c.isDigit = true) (hrest : Text.StopsAt (fun c => !c.isDigit) rest) :
    spanFraction ('.' :: (ds ++ rest)) = some (fractionValue ds, rest) := by
  have hspan : Digits.span (ds ++ rest) = (ds, rest) := by
    rw [Digits.span_append_of_stopsAt hrest, Digits.span_of_isDigit hdigits]
    rfl
  rw [spanFraction, hspan]
  cases ds with
  | nil => exact absurd rfl hne
  | cons d ds => rfl

/-- The fraction of a second is read back in front of the end. -/
theorem spanFraction_fractionText {nanosecond : Nat} (h : nanosecond < 1000000000) :
    spanFraction (fractionText nanosecond ++ ['Z']) = some (nanosecond, ['Z']) := by
  by_cases hzero : nanosecond = 0
  · subst hzero
    rfl
  · have hlength : (padded 9 nanosecond).length = 9 := length_padded (by decide) h
    have hne : padded 9 nanosecond ≠ [] := by
      rw [← List.length_pos_iff, hlength]
      decide
    have hvalue : fractionValue (padded 9 nanosecond) = nanosecond := by
      have htake : (padded 9 nanosecond).take 9 = padded 9 nanosecond :=
        List.take_of_length_le (Nat.le_of_eq hlength)
      rw [fractionValue, htake, toNat_padded, hlength]
      exact Nat.mul_one nanosecond
    rw [fractionText, if_neg hzero, List.cons_append,
      spanFraction_point hne (fun c => isDigit_of_mem_padded) (Text.stopsAt_cons.2 rfl), hvalue]

/-- The parts of an instant in universal time make up the instant. -/
theorem ofCivil?_civil {t : Instant} (hleap : t.leap = true → t.second % 60 = 59) :
    ofCivil? t.civil.1 t.civil.2.1 t.civil.2.2.1 t.civil.2.2.2 t.nanosecond 0 = some t := by
  obtain ⟨hvalid, hcount⟩ := Date.ofDayNumber_spec (t.second / 86400)
  have hday : t.second = 86400 * (t.second / 86400) + (t.second % 86400).toNat := by omega
  -- a day is a whole number of minutes, so a leap second ends a minute of its day
  have hminute : t.leap = true → (t.second % 86400).toNat % 60 = 59 := by
    intro htrue
    have hlast := hleap htrue
    omega
  obtain ⟨second, nanosecond, leap⟩ := t
  generalize hs : (second % 86400).toNat = s at hday hminute
  have hlt : s < 86400 := by omega
  have hcivil : civil ⟨second, nanosecond, leap⟩ = (Date.ofDayNumber (second / 86400), s / 3600,
      s / 60 % 60, s % 60 + if leap then 1 else 0) := by
    rw [civil, hs]
  have hparts : (Date.ofDayNumber (second / 86400)).IsValid ∧ s / 3600 ≤ 23 ∧ s / 60 % 60 ≤ 59 ∧
      s % 60 + (if leap then 1 else 0) ≤ 60 := by
    refine ⟨hvalid, by omega, by omega, ?_⟩
    split <;> omega
  rw [hcivil, ofCivil?, if_pos hparts, hcount, Option.some.injEq, Instant.mk.injEq]
  cases leap with
  | false =>
    -- no second of a minute but a leap second is the sixtieth
    have hother : s % 60 ≠ 60 := by omega
    refine ⟨?_, rfl, decide_eq_false hother⟩
    simp only [Bool.false_eq_true, if_false]
    omega
  | true =>
    have hlast : s % 60 = 59 := hminute rfl
    refine ⟨?_, rfl, ?_⟩
    · simp only [if_true]
      omega
    · rw [if_pos rfl, hlast]
      rfl

/-- What a clock that keeps universal time shows of an instant. -/
def clock (t : Instant) : ClockTime :=
  ⟨t.civil.1, t.civil.2.1, t.civil.2.2.1, t.civil.2.2.2, 0⟩

/-- What a clock in universal time shows of an instant is proper and, nanoseconds apart, the whole
instant. -/
theorem clock_spec {t : Instant} (hleap : t.leap = true → t.second % 60 = 59) :
    t.clock.IsProper ∧ t.clock.instant t.nanosecond = t := by
  obtain ⟨hproper, hinstant⟩ :=
    (ClockTime.ofCivil?_eq_some_iff (a := t.clock)).1 (ofCivil?_civil hleap)
  exact ⟨hproper, hinstant.symm⟩

/-! ## Reading -/

/-- A writable instant is read back from its text. -/
theorem ofTimestamp?_rfc3339 {t : Instant} (h : t.IsWritable) :
    ofTimestamp? t.rfc3339 = some t := by
  obtain ⟨hproper, hinstant⟩ := clock_spec h.leap_second
  have hwritten : t.clock.IsWritten := ⟨h.year_nonneg, h.year_le⟩
  have htext : t.rfc3339.toList =
      t.clock.face 'T' ++ (fractionText t.nanosecond ++ ['Z']) := by
    rw [rfc3339, String.toList_ofList, ClockTime.face,
      yearText_of_written hwritten.year_nonneg hwritten.year_le, ← List.append_assoc]
    rfl
  rw [ofTimestamp?, htext, ClockTime.ofTimestampChars?_face hproper hwritten (.inl rfl)
    (spanFraction_fractionText h.nanosecond_lt) rfl, hinstant]

end Instant

end SearchDomain
