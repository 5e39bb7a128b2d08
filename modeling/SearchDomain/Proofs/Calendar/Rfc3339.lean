/-
  SearchDomain.Proofs.Calendar.Rfc3339

  The timestamps of RFC 3339, stated apart from the reader: what a clock of the
  years 0 to 9999 shows, a fraction of the second or none, and how far the clock is
  ahead of universal time or behind it. Main statements: these texts are read and
  no others, each as the second that its clock shows; and what is written for this
  second is the timestamp of a clock in universal time, which in the years 0 to
  9999 is a timestamp of RFC 3339 itself.
-/
import Mathlib.Data.List.Forall2
import SearchDomain.Proofs.Calendar.Order
import SearchDomain.Proofs.Calendar.Timestamp

namespace SearchDomain

open Instant

/-! ## Fraction and offset -/

/-- A fraction of a second behind its point, or none. -/
inductive IsFraction : List Char → Prop
  | none : IsFraction []
  | digits {ds : List Char} (hne : ds ≠ []) (hdigits : ∀ c ∈ ds, c.isDigit = true) :
    IsFraction ('.' :: ds)

/-- An offset from universal time in seconds: none, or hours and minutes ahead or behind. -/
inductive SpellsOffset : List Char → Int → Prop
  | capital : SpellsOffset ['Z'] 0
  | small : SpellsOffset ['z'] 0
  | ahead {hours minutes : Nat} (hhours : hours ≤ 23) (hminutes : minutes ≤ 59) :
    SpellsOffset ('+' :: padded 2 hours ++ ':' :: padded 2 minutes) (3600 * hours + 60 * minutes)
  | behind {sign : Char} (hsign : sign = '-' ∨ sign = '\u2212') {hours minutes : Nat}
    (hhours : hours ≤ 23) (hminutes : minutes ≤ 59) :
    SpellsOffset (sign :: padded 2 hours ++ ':' :: padded 2 minutes)
      (-(3600 * hours + 60 * minutes))

/-- An offset is a whole number of minutes. -/
theorem SpellsOffset.dvd {cs : List Char} {offset : Int} (h : SpellsOffset cs offset) :
    60 ∣ offset := by
  cases h with
  | capital | small => exact Int.dvd_zero 60
  | ahead | behind => omega

/-- An offset begins with a letter or a sign. -/
theorem SpellsOffset.exists_head {cs : List Char} {offset : Int} (h : SpellsOffset cs offset) :
    ∃ c rest, cs = c :: rest ∧ c.isDigit = false ∧ c ≠ '.' := by
  cases h with
  | capital | small => exact ⟨_, _, rfl, by decide, by decide⟩
  | ahead => exact ⟨'+', _, rfl, by decide, by decide⟩
  | behind hsign =>
    refine ⟨_, _, rfl, ?_⟩
    rcases hsign with rfl | rfl
    · exact ⟨by decide, by decide⟩
    · exact ⟨by decide, by decide⟩

namespace Instant

theorem readOffset_signed {hours minutes : Nat} (hhours : hours ≤ 23) (hminutes : minutes ≤ 59)
    (sign : Char) :
    readOffset (sign :: padded 2 hours ++ ':' :: padded 2 minutes) =
      if sign = '+' then some (3600 * (hours : Int) + 60 * minutes)
      else if sign = '-' ∨ sign = '\u2212' then some (-(3600 * (hours : Int) + 60 * minutes))
      else none := by
  obtain ⟨h, h', hhoursRead⟩ := exists_twoDigits (n := hours) (by omega)
  obtain ⟨m, m', hminutesRead⟩ := exists_twoDigits (n := minutes) (by omega)
  have hbounds : ¬(23 < hours ∨ 59 < minutes) := by omega
  rw [(twoDigits_eq_some_iff.1 hhoursRead).2, (twoDigits_eq_some_iff.1 hminutesRead).2]
  simp only [List.cons_append, List.nil_append, readOffset, hhoursRead, hminutesRead,
    if_neg hbounds]

theorem readOffset_eq_some_iff {cs : List Char} {offset : Int} :
    readOffset cs = some offset ↔ SpellsOffset cs offset := by
  constructor
  · intro hread
    unfold readOffset at hread
    split at hread
    next =>
      cases hread
      exact .capital
    next =>
      cases hread
      exact .small
    next sign h h' m m' =>
      split at hread
      next hours minutes hhours hminutes =>
        rw [Option.ite_none_left_eq_some, not_or, Nat.not_lt, Nat.not_lt] at hread
        obtain ⟨⟨hhoursLe, hminutesLe⟩, hread⟩ := hread
        have hdigits : [sign, h, h', ':', m, m'] =
            sign :: padded 2 hours ++ ':' :: padded 2 minutes := by
          rw [(twoDigits_eq_some_iff.1 hhours).2, (twoDigits_eq_some_iff.1 hminutes).2]
          rfl
        rw [hdigits]
        split at hread
        next hplus =>
          cases hread
          subst hplus
          exact .ahead hhoursLe hminutesLe
        next =>
          rw [Option.ite_none_right_eq_some] at hread
          obtain ⟨hsign, ⟨rfl⟩⟩ := hread
          exact .behind hsign hhoursLe hminutesLe
      next => cases hread
    next => cases hread
  · intro hspells
    cases hspells with
    | capital => rfl
    | small => rfl
    | ahead hhours hminutes => exact readOffset_signed hhours hminutes '+'
    | @behind sign hsign hours minutes hhours hminutes =>
      have hplus : sign ≠ '+' := by
        rintro rfl
        exact hsign.elim (by decide) (by decide)
      rw [readOffset_signed hhours hminutes, if_neg hplus, if_pos hsign]

theorem spanFraction_append {fraction offsetText : List Char} {offset : Int}
    (hfraction : IsFraction fraction) (hoffset : SpellsOffset offsetText offset) :
    ∃ nanosecond, spanFraction (fraction ++ offsetText) = some (nanosecond, offsetText) := by
  obtain ⟨c, rest, rfl, hdigit, hpoint⟩ := hoffset.exists_head
  cases hfraction with
  | none =>
    refine ⟨0, ?_⟩
    rw [List.nil_append, spanFraction]
    rintro cs ⟨⟩
    exact hpoint rfl
  | @digits ds hne hdigits =>
    have hstop : Text.StopsAt (fun c => !c.isDigit) (c :: rest) := by
      rw [Text.stopsAt_cons, hdigit]
      rfl
    exact ⟨fractionValue ds, spanFraction_point hne hdigits hstop⟩

theorem exists_of_spanFraction {cs rest : List Char} {nanosecond : Nat}
    (h : spanFraction cs = some (nanosecond, rest)) :
    ∃ fraction, IsFraction fraction ∧ cs = fraction ++ rest := by
  unfold spanFraction at h
  split at h
  next cs =>
    split at h
    next => cases h
    next digits rest' hne hspan =>
      cases h
      have hsplit := Digits.span_append cs
      have hdigits := @Digits.isDigit_of_mem_span cs
      rw [hspan] at hsplit hdigits
      exact ⟨'.' :: digits, .digits hne fun c hc => hdigits hc,
        congrArg ('.' :: ·) hsplit.symm⟩
  next =>
    cases h
    exact ⟨[], .none, rfl⟩

end Instant

/-! ## Clock times in texts -/

namespace ClockTime

/-- Whether a text states what a clock shows, as RFC 3339 has it. -/
inductive IsStatedBy (a : ClockTime) (s : String) : Prop
  | intro {separator : Char} {fraction offsetText : List Char} (hproper : a.IsProper)
    (hwritten : a.IsWritten) (hseparator : IsSeparator separator) (hfraction : IsFraction fraction)
    (hoffset : SpellsOffset offsetText a.offset)
    (htext : s.toList = a.face separator ++ (fraction ++ offsetText)) : IsStatedBy a s

variable {a b : ClockTime} {s : String}

/-- A text that states a clock time is read as that time. -/
theorem IsStatedBy.exists_ofTimestamp? (h : a.IsStatedBy s) :
    ∃ nanosecond, ofTimestamp? s = some (a.instant nanosecond) := by
  obtain ⟨hproper, hwritten, hseparator, hfraction, hoffset, htext⟩ := h
  obtain ⟨nanosecond, hspan⟩ := spanFraction_append hfraction hoffset
  refine ⟨nanosecond, ?_⟩
  rw [ofTimestamp?, htext]
  exact ofTimestampChars?_face hproper hwritten hseparator hspan (readOffset_eq_some_iff.2 hoffset)

/-- The texts that are read are those that state a clock time. -/
theorem isSome_ofTimestamp?_iff :
    (ofTimestamp? s).isSome = true ↔ ∃ a : ClockTime, a.IsStatedBy s := by
  rw [Option.isSome_iff_exists]
  constructor
  · rintro ⟨t, hread⟩
    obtain ⟨a, separator, rest, offsetText, nanosecond, hproper, hwritten, hseparator, htext,
      hspan, hoffset⟩ := exists_face_of_ofTimestampChars? hread
    obtain ⟨fraction, hfraction, rfl⟩ := exists_of_spanFraction hspan
    exact ⟨a, hproper, hwritten, hseparator, hfraction, readOffset_eq_some_iff.1 hoffset, htext⟩
  · rintro ⟨a, h⟩
    obtain ⟨nanosecond, hread⟩ := h.exists_ofTimestamp?
    exact ⟨_, hread⟩

/-! ## Seconds in universal time -/

/-- Whether two clocks show the same second of universal time. A leap second is another one than
the second before it. -/
structure SameSecond (a b : ClockTime) : Prop where
  utcSecond_eq : a.utcSecond = b.utcSecond
  leap_iff : a.second = 60 ↔ b.second = 60

theorem SameSecond.symm (h : a.SameSecond b) : b.SameSecond a :=
  ⟨h.utcSecond_eq.symm, h.leap_iff.symm⟩

theorem SameSecond.trans {c : ClockTime} (h : a.SameSecond b) (h' : b.SameSecond c) :
    a.SameSecond c :=
  ⟨h.utcSecond_eq.trans h'.utcSecond_eq, h.leap_iff.trans h'.leap_iff⟩

/-- The time shown lies between the midnights around the day shown. -/
theorem utcSecond_between (ha : a.IsProper) :
    86400 * a.date.dayNumber ≤ a.utcSecond + a.offset ∧
      a.utcSecond + a.offset < 86400 * a.date.dayNumber + 86400 := by
  have hhour := ha.hour_le
  have hminute := ha.minute_le
  have hcounted : min a.second 59 ≤ 59 := Nat.min_le_right a.second 59
  rw [utcSecond]
  omega

/-- Clocks as far ahead of universal time as one another show the same second alike. -/
theorem SameSecond.eq_of_offset_eq (h : a.SameSecond b) (ha : a.IsProper) (hb : b.IsProper)
    (hoffset : a.offset = b.offset) : a = b := by
  have hcount := h.utcSecond_eq
  -- no second lies between the midnights around two days
  have hday : a.date.dayNumber = b.date.dayNumber := by
    have hbetween := utcSecond_between ha
    have hbetween' := utcSecond_between hb
    omega
  have hdate : a.date = b.date := Date.eq_of_dayNumber_eq ha.isValid hb.isValid hday
  rw [utcSecond, utcSecond, hday, hoffset] at hcount
  have hminute := ha.minute_le
  have hminute' := hb.minute_le
  have hcounted : min a.second 59 ≤ 59 := Nat.min_le_right a.second 59
  have hcounted' : min b.second 59 ≤ 59 := Nat.min_le_right b.second 59
  obtain ⟨hhours, hminutes, hseconds⟩ :
      a.hour = b.hour ∧ a.minute = b.minute ∧ min a.second 59 = min b.second 59 := by
    omega
  have hsecond : a.second = b.second := by
    have hle := ha.second_le
    have hle' := hb.second_le
    have hleap := h.leap_iff
    omega
  obtain ⟨date, hour, minute, second, offset⟩ := a
  rw [ClockTime.mk.injEq]
  exact ⟨hdate, hhours, hminutes, hsecond, hoffset⟩

/-- Whether a second lies in the years 0 to 9999 of universal time: not before the midnight at
which the first of them begins, and before that at which they are over. -/
structure LiesInWrittenYears (a : ClockTime) : Prop where
  not_before : (midnight ⟨0, 1, 1⟩).second ≤ a.utcSecond
  not_after : a.utcSecond < (midnight ⟨10000, 1, 1⟩).second

/-- Four digits are enough for the years of the days with these counts. -/
theorem isWritten_iff_dayNumber (ha : a.IsProper) :
    a.IsWritten ↔ -719528 ≤ a.date.dayNumber ∧ a.date.dayNumber < 2932897 := by
  have hday := Date.dayNumber_between ha.isValid
  rw [Date.yearStart, Date.yearStart, Date.epochStart] at hday
  constructor
  · rintro ⟨hnonneg, hle⟩
    omega
  · rintro ⟨hbefore, hafter⟩
    exact ⟨by omega, by omega⟩

/-- Four digits are enough for the year that a clock in universal time shows exactly in the years
0 to 9999. -/
theorem liesInWrittenYears_iff (ha : a.IsProper) (hutc : a.offset = 0) :
    a.LiesInWrittenYears ↔ a.IsWritten := by
  have hfirst : (midnight ⟨0, 1, 1⟩).second = 86400 * -719528 := by decide
  have hend : (midnight ⟨10000, 1, 1⟩).second = 86400 * 2932897 := by decide
  have hbetween := utcSecond_between ha
  rw [isWritten_iff_dayNumber ha]
  constructor
  · rintro ⟨hbefore, hafter⟩
    rw [hfirst] at hbefore
    rw [hend] at hafter
    omega
  · rintro ⟨hbefore, hafter⟩
    exact ⟨by omega, by omega⟩

/-! ## Timestamps written -/

/-- Whether a text is the timestamp, in universal time and without a fraction, of the second that
a clock shows. -/
inductive IsUtcText (a : ClockTime) (s : String) : Prop
  | intro {b : ClockTime} (hproper : b.IsProper) (hutc : b.offset = 0) (hsecond : a.SameSecond b)
    (htext : s.toList = b.face 'T' ++ ['Z']) : IsUtcText a s

/-- What is written for a time that was read is its second in universal time. -/
theorem IsStatedBy.isUtcText_timestamp (h : a.IsStatedBy s) (nanosecond : Nat) :
    a.IsUtcText (a.instant nanosecond).timestamp := by
  obtain ⟨hproper, -, -, -, hoffset, -⟩ := h
  -- an offset is no fraction of a minute, so a leap second ends a minute of universal time too
  have hleap : (a.instant nanosecond).leap = true → (a.instant nanosecond).second % 60 = 59 := by
    intro hleap
    have hsixty : a.second = 60 := of_decide_eq_true hleap
    have hminutes := hoffset.dvd
    show a.utcSecond % 60 = 59
    rw [utcSecond, hsixty]
    omega
  obtain ⟨hclock, hinstant⟩ := clock_spec hleap
  injection hinstant with hsecond _ hsixty
  refine .intro hclock rfl ⟨hsecond.symm, ?_⟩ (String.toList_ofList)
  exact (decide_eq_decide.1 hsixty).symm

/-- A second has one timestamp. -/
theorem IsUtcText.unique {t : String} (hs : a.IsUtcText s) (ht : a.IsUtcText t) : s = t := by
  obtain ⟨hproper, hutc, hsecond, htext⟩ := hs
  obtain ⟨hproper', hutc', hsecond', htext'⟩ := ht
  have hclocks := (hsecond.symm.trans hsecond').eq_of_offset_eq hproper hproper'
    (hutc.trans hutc'.symm)
  rw [← String.toList_inj, htext, htext', hclocks]

/-- The same second has the same timestamp. -/
theorem SameSecond.isUtcText (h : a.SameSecond b) (hs : b.IsUtcText s) : a.IsUtcText s := by
  obtain ⟨hproper, hutc, hsecond, htext⟩ := hs
  exact .intro hproper hutc (h.trans hsecond) htext

/-- In the years 0 to 9999 four digits are enough for the year of the timestamp. -/
theorem IsUtcText.exists_isWritten (h : a.IsUtcText s) (hyears : a.LiesInWrittenYears) :
    ∃ b : ClockTime, b.IsProper ∧ b.IsWritten ∧ b.offset = 0 ∧ a.SameSecond b ∧
      s.toList = b.face 'T' ++ ['Z'] := by
  cases h with
  | @intro b hproper hutc hsecond htext =>
    have hwritten : b.IsWritten := by
      rw [← liesInWrittenYears_iff hproper hutc]
      exact ⟨hsecond.utcSecond_eq ▸ hyears.not_before, hsecond.utcSecond_eq ▸ hyears.not_after⟩
    exact ⟨b, hproper, hwritten, hutc, hsecond, htext⟩

/-- In the years 0 to 9999 the timestamp of a second states that second. -/
theorem IsUtcText.exists_isStatedBy (h : a.IsUtcText s) (hyears : a.LiesInWrittenYears) :
    ∃ b : ClockTime, b.IsStatedBy s ∧ a.SameSecond b := by
  obtain ⟨b, hproper, hwritten, hutc, hsecond, htext⟩ := h.exists_isWritten hyears
  exact ⟨_, .intro hproper hwritten (.inl rfl) .none (hutc ▸ .capital) htext, hsecond⟩

/-! ## The form of timestamps -/

/-- Whether a character may stand at a place of a form, where the letters for year, month, day,
hour, minute and second stand for digits and everything else for itself. -/
def Fits (place c : Char) : Prop :=
  if place ∈ "YMDHS".toList then c.isDigit = true else c = place

/-- Whether a text has a form, place by place. -/
def HasForm (form s : String) : Prop :=
  List.Forall₂ Fits form.toList s.toList

theorem fits_padded {place : Char} (hplace : place ∈ "YMDHS".toList) {width n : Nat}
    (hwidth : 0 < width) (h : n < Nat.pow 10 width) :
    List.Forall₂ Fits (List.replicate width place) (padded width n) := by
  rw [List.forall₂_iff_zip, List.length_replicate, length_padded hwidth h]
  refine ⟨rfl, fun {p c} hpair => ?_⟩
  obtain ⟨hp, hc⟩ := List.of_mem_zip hpair
  rw [List.eq_of_mem_replicate hp, Fits, if_pos hplace]
  exact isDigit_of_mem_padded hc

theorem fits_cons {mark : Char} (hmark : mark ∉ "YMDHS".toList) {places cs : List Char}
    (h : List.Forall₂ Fits places cs) : List.Forall₂ Fits (mark :: places) (mark :: cs) :=
  .cons (by rw [Fits, if_neg hmark]) h

/-- In the years 0 to 9999 the timestamp of a second has the same form as all others. -/
theorem IsUtcText.hasForm (h : a.IsUtcText s) (hyears : a.LiesInWrittenYears) :
    HasForm "YYYY-MM-DDTHH:MM:SSZ" s := by
  obtain ⟨b, ⟨hdate, hhour, hminute, hsecond⟩, ⟨hnonneg, hle⟩, -, -, htext⟩ :=
    h.exists_isWritten hyears
  have hform : "YYYY-MM-DDTHH:MM:SSZ".toList =
      List.replicate 4 'Y' ++ '-' :: List.replicate 2 'M' ++ '-' :: List.replicate 2 'D' ++
        'T' :: List.replicate 2 'H' ++ ':' :: List.replicate 2 'M' ++
        ':' :: List.replicate 2 'S' ++ ['Z'] := by decide
  have hyear : b.date.year.toNat < Nat.pow 10 4 := by
    show b.date.year.toNat < 10000
    omega
  have hshort : ∀ n ≤ 60, n < Nat.pow 10 2 := fun n hn => Nat.lt_of_le_of_lt hn (by decide)
  have hmonth := hshort b.date.month (Nat.le_trans hdate.2.1 (by decide))
  have hday := hshort b.date.day
    (Nat.le_trans hdate.2.2.2 (Nat.le_trans (Date.daysInMonth_le _ _) (by decide)))
  rw [HasForm, htext, hform, face, yearText_of_written hnonneg hle]
  refine List.rel_append (List.rel_append (List.rel_append (List.rel_append (List.rel_append
    (List.rel_append ?_ ?_) ?_) ?_) ?_) ?_) (fits_cons (by decide) .nil)
  · exact fits_padded (by decide) (by decide) hyear
  · exact fits_cons (by decide) (fits_padded (by decide) (by decide) hmonth)
  · exact fits_cons (by decide) (fits_padded (by decide) (by decide) hday)
  · exact fits_cons (by decide)
      (fits_padded (by decide) (by decide) (hshort _ (Nat.le_trans hhour (by decide))))
  · exact fits_cons (by decide)
      (fits_padded (by decide) (by decide) (hshort _ (Nat.le_trans hminute (by decide))))
  · exact fits_cons (by decide) (fits_padded (by decide) (by decide) (hshort _ hsecond))

end ClockTime

end SearchDomain
