/-
  SearchDomain.Proofs.Filter.DateRange

  Half-open ranges of days. The query language has closed ranges only, so the
  days up to a bound are sent as the range that ends at midnight of the day before
  it. Main statement: for all supported days the range is missing exactly when it
  has no day, and otherwise holds the midnights of its days and of no others.
-/
import SearchDomain.Filter.Value
import SearchDomain.Proofs.Calendar.Order

namespace SearchDomain.FilterValue

open Instant (midnight)

/-- Whether a value is a range of instants that an instant lies in. -/
inductive Spans : FilterValue → Instant → Prop
  | intro {first last t : Instant} (hfirst : first ≤ t) (hlast : t ≤ last) :
    Spans (dateRange first last) t

theorem spans_dateRange {first last t : Instant} :
    (dateRange first last).Spans t ↔ first ≤ t ∧ t ≤ last := by
  constructor
  · rintro ⟨hfirst, hlast⟩
    exact ⟨hfirst, hlast⟩
  · rintro ⟨hfirst, hlast⟩
    exact .intro hfirst hlast

theorem not_spans_empty (t : Instant) : ¬empty.Spans t := nofun

variable {first bound : Date}

/-- A range whose bound does not come later than its first day has no day. -/
theorem ofHalfOpenDates_of_le (h : bound ≤ first) : ofHalfOpenDates first bound = empty := by
  have hbefore : ¬first.isBefore bound = true := h
  rw [ofHalfOpenDates]
  cases bound.pred? with
  | none => rfl
  | some last => exact if_neg hbefore

/-- A range with a day ends at midnight of the day before its bound. -/
theorem exists_ofHalfOpenDates_of_lt (hfirst : first.IsSupported) (hbound : bound.IsSupported)
    (h : first < bound) :
    ∃ last, Date.IsDayBefore last bound ∧
      ofHalfOpenDates first bound = dateRange (midnight first) (midnight last) := by
  -- only the least day has none before it, and no supported day comes before the least
  have hne : bound ≠ Date.least := by
    rintro rfl
    exact hfirst.least_le h
  obtain ⟨last, hpred, hlast⟩ := Date.exists_isDayBefore hbound hne
  have hbefore : first.isBefore bound = true := h
  refine ⟨last, hlast, ?_⟩
  rw [ofHalfOpenDates, hpred]
  dsimp only
  rw [if_pos hbefore, ofClosedDates]

/-- The midnights from that of the first day to that of the day before the bound are those of the
days from the first up to the bound. -/
theorem spans_midnight_iff {last day : Date} (hfirst : first.IsValid) (hbound : bound.IsValid)
    (hlast : last.IsDayBefore bound) (hday : day.IsValid) :
    (dateRange (midnight first) (midnight last)).Spans (midnight day) ↔
      first ≤ day ∧ day < bound := by
  have hlastValid := hlast.isSupported.isValid
  rw [spans_dateRange, Instant.midnight_le_midnight_iff hfirst hday,
    Instant.midnight_le_midnight_iff hday hlastValid]
  refine and_congr_right fun _ => ⟨fun hle => ?_, hlast.greatest_of_lt day hday⟩
  have hbefore := hlast.lt
  rw [Date.le_iff_dayNumber_le hday hlastValid] at hle
  rw [Date.lt_iff_dayNumber_lt hlastValid hbound] at hbefore
  rw [Date.lt_iff_dayNumber_lt hday hbound]
  omega

/-- The days from a first one up to a bound are no value exactly when there are none. Otherwise
they are the range from the midnight at which the first day begins in universal time to that at
which the day before the bound begins. In both cases the midnight of a day lies in the value
exactly when the day is one of them. -/
theorem ofHalfOpenDates_spans_iff (hfirst : first.IsSupported) (hbound : bound.IsSupported) :
    (ofHalfOpenDates first bound = empty ↔ bound ≤ first) ∧
    (first < bound → ∃ last, Date.IsDayBefore last bound ∧
      (midnight first).civil = (first, 0, 0, 0) ∧ (midnight last).civil = (last, 0, 0, 0) ∧
      ofHalfOpenDates first bound = dateRange (midnight first) (midnight last)) ∧
    ∀ day : Date, day.IsSupported →
      ((ofHalfOpenDates first bound).Spans (midnight day) ↔ first ≤ day ∧ day < bound) := by
  by_cases h : first < bound
  · obtain ⟨last, hlast, hrange⟩ := exists_ofHalfOpenDates_of_lt hfirst hbound h
    have hle : ¬bound ≤ first := fun hle => hle h
    rw [hrange]
    refine ⟨⟨nofun, fun h => absurd h hle⟩, fun _ => ⟨last, hlast, ?_, ?_, rfl⟩, ?_⟩
    · exact Instant.civil_midnight hfirst.isValid
    · exact Instant.civil_midnight hlast.isSupported.isValid
    · intro day hday
      exact spans_midnight_iff hfirst.isValid hbound.isValid hlast hday.isValid
  · have hempty : ofHalfOpenDates first bound = empty := ofHalfOpenDates_of_le h
    rw [hempty]
    refine ⟨⟨fun _ => h, fun _ => rfl⟩, fun hlt => absurd hlt h, fun day hday => ?_⟩
    refine ⟨fun hspans => absurd hspans (not_spans_empty _), fun ⟨hle, hlt⟩ => absurd ?_ h⟩
    -- a day that is not before the first and before the bound sets the two apart
    rw [Date.le_iff_dayNumber_le hfirst.isValid hday.isValid] at hle
    rw [Date.lt_iff_dayNumber_lt hday.isValid hbound.isValid] at hlt
    rw [Date.lt_iff_dayNumber_lt hfirst.isValid hbound.isValid]
    omega

/-- Up to the first of March the last midnight is that of the leap day; from the least day on the
range reaches as far as it can, and up to the least day there is nothing. -/
theorem ofHalfOpenDates_spans_leapDay :
    Date.IsSupported ⟨2024, 2, 1⟩ ∧ Date.IsSupported ⟨2024, 3, 1⟩ ∧ Date.IsSupported .least ∧
    (ofHalfOpenDates ⟨2024, 2, 1⟩ ⟨2024, 3, 1⟩).Spans (midnight ⟨2024, 2, 29⟩) ∧
    ¬(ofHalfOpenDates ⟨2024, 2, 1⟩ ⟨2024, 3, 1⟩).Spans (midnight ⟨2024, 3, 1⟩) ∧
    (ofHalfOpenDates .least ⟨2024, 3, 1⟩).Spans (midnight .least) ∧
    ofHalfOpenDates ⟨2024, 2, 1⟩ .least = empty := by
  have hfebruary : Date.IsSupported ⟨2024, 2, 1⟩ := ⟨by decide, by decide, by decide⟩
  have hleapDay : Date.IsSupported ⟨2024, 2, 29⟩ := ⟨by decide, by decide, by decide⟩
  have hmarch : Date.IsSupported ⟨2024, 3, 1⟩ := ⟨by decide, by decide, by decide⟩
  have hleast : Date.IsSupported .least := ⟨by decide, by decide, by decide⟩
  have hdays := (ofHalfOpenDates_spans_iff hfebruary hmarch).2.2
  refine ⟨hfebruary, hmarch, hleast, ?_, ?_, ?_, ?_⟩
  · exact (hdays _ hleapDay).2 (by decide)
  · exact (not_congr (hdays _ hmarch)).2 (by decide)
  · exact ((ofHalfOpenDates_spans_iff hleast hmarch).2.2 _ hleast).2 (by decide)
  · exact (ofHalfOpenDates_spans_iff hfebruary hleast).1.2 (by decide)

end SearchDomain.FilterValue
