/-
  SearchDomain.Proofs.Filter.TimestampRange

  Ranges between two timestamps. A document gives the ends as RFC 3339 texts at any
  offset, and what is compiled has them in universal time and without fractions.
  Main statement: the range is read exactly when both ends are such texts, each end
  is rendered as the second that it states, and in the years 0 to 9999 a document
  with the rendered ends in place of the given ones compiles to the same text.
-/
import SearchDomain.Proofs.Calendar.Rfc3339
import SearchDomain.Proofs.Filter.Place
import SearchDomain.Proofs.Text.Quoted

namespace SearchDomain

open Text (quote)

/-! ## Timestamps as literals -/

namespace ClockTime

open Instant (padded yearText)

/-- Whether a timestamp may have the character: a digit, a sign, a colon or one of its letters. -/
def IsTimestampChar (c : Char) : Prop :=
  c.isDigit = true ∨ c ∈ "-+T:Z".toList

theorem isTimestampChar_of_mem_padded {width n : Nat} {c : Char} (h : c ∈ padded width n) :
    IsTimestampChar c :=
  .inl (Instant.isDigit_of_mem_padded h)

/-- A number behind a mark has no other characters than the mark and digits. -/
theorem isTimestampChar_of_mem_cons {mark c : Char} {width n : Nat}
    (hmark : mark ∈ "-+T:Z".toList) (h : c ∈ mark :: padded width n) : IsTimestampChar c := by
  rcases List.mem_cons.1 h with rfl | hdigit
  · exact .inr hmark
  · exact isTimestampChar_of_mem_padded hdigit

theorem isTimestampChar_of_mem_yearText {year : Int} {c : Char} (h : c ∈ yearText year) :
    IsTimestampChar c := by
  rw [yearText] at h
  split at h
  · exact isTimestampChar_of_mem_cons (by decide) h
  · split at h
    · exact isTimestampChar_of_mem_cons (by decide) h
    · exact isTimestampChar_of_mem_padded h

variable {a : ClockTime} {s : String}

theorem IsUtcText.isTimestampChar (h : a.IsUtcText s) {c : Char} (hc : c ∈ s.toList) :
    IsTimestampChar c := by
  obtain ⟨-, -, -, htext⟩ := h
  rw [htext, face] at hc
  simp only [List.append_assoc, List.mem_append] at hc
  rcases hc with hyear | hmonth | hday | hhour | hminute | hsecond | hend
  · exact isTimestampChar_of_mem_yearText hyear
  · exact isTimestampChar_of_mem_cons (by decide) hmonth
  · exact isTimestampChar_of_mem_cons (by decide) hday
  · exact isTimestampChar_of_mem_cons (by decide) hhour
  · exact isTimestampChar_of_mem_cons (by decide) hminute
  · exact isTimestampChar_of_mem_cons (by decide) hsecond
  · rw [List.mem_singleton.1 hend]
    exact .inr (by decide)

/-- A timestamp has nothing in it that a literal would escape. -/
theorem IsUtcText.quote_eq (h : a.IsUtcText s) : quote s = "'" ++ s ++ "'" := by
  have hplain : ∀ c ∈ s.toList, c ≠ '\\' ∧ c ≠ '\'' := by
    intro c hc
    have hchar := h.isTimestampChar hc
    constructor
    · rintro rfl
      exact hchar.elim (by decide) (by decide)
    · rintro rfl
      exact hchar.elim (by decide) (by decide)
  rw [← String.toList_inj, Text.toList_quote, Text.Quoted.literal,
    Text.Quoted.escape_eq_self hplain, String.toList_append, String.toList_append]
  rfl

end ClockTime

/-! ## Ranges -/

namespace Filter

/-- Two texts as the ends of a range. -/
def textEnds (first last : String) : Json :=
  .array [.string first, .string last]

/-- Two timestamps as the ends of a range that is compiled. -/
def datesText (first last : String) : String :=
  "['" ++ first ++ "','" ++ last ++ "']"

/-- Whether two texts for a field are read as the ends of a range of instants. -/
def ReadsAsDates (field first last : String) : Prop :=
  ∃ t u, ofJson (.object [(field, textEnds first last)]) = .ok (condition field (.dateRange t u))

variable {field first last first' last' : String} {a b : ClockTime}

theorem exists_standsFor_textEnds (ha : a.IsStatedBy first) (hb : b.IsStatedBy last) :
    ∃ nanosecond nanosecond', (textEnds first last).StandsFor
      (.dateRange (a.instant nanosecond) (b.instant nanosecond')) := by
  obtain ⟨nanosecond, hfirst⟩ := ha.exists_ofTimestamp?
  obtain ⟨nanosecond', hlast⟩ := hb.exists_ofTimestamp?
  exact ⟨nanosecond, nanosecond', .timestamps hfirst hlast⟩

theorem ofJson_textEnds {value : FilterValue} (h : (textEnds first last).StandsFor value)
    (field : String) :
    ofJson (.object [(field, textEnds first last)]) = .ok (condition field value) :=
  ofJson_of_describes (.single (.cons (.condition h) .nil))

/-- Texts are read as the ends of a range exactly when both of them are timestamps. -/
theorem readsAsDates_iff :
    ReadsAsDates field first last ↔
      (∃ a : ClockTime, a.IsStatedBy first) ∧ ∃ b : ClockTime, b.IsStatedBy last := by
  constructor
  · rintro ⟨t, u, hread⟩
    rcases ofJson_cases (.object [(field, textEnds first last)]) with
      ⟨found, hfound, hdescribes, -⟩ | ⟨error, herror, -⟩
    · obtain rfl : found = condition field (.dateRange t u) :=
        Except.ok.inj (hfound.symm.trans hread)
      cases hdescribes with
      | single hmembers =>
        cases hmembers with
        | cons hmember _ =>
          cases hmember with
          | condition hstands =>
            cases hstands with
            | timestamps hfirst hlast =>
              exact ⟨ClockTime.isSome_ofTimestamp?_iff.1 (by rw [hfirst]; rfl),
                ClockTime.isSome_ofTimestamp?_iff.1 (by rw [hlast]; rfl)⟩
    · rw [hread] at herror
      cases herror
  · rintro ⟨⟨a, ha⟩, ⟨b, hb⟩⟩
    obtain ⟨nanosecond, nanosecond', hstands⟩ := exists_standsFor_textEnds ha hb
    exact ⟨_, _, ofJson_textEnds hstands field⟩

/-- What stands behind the colon is the timestamps of the seconds that are stated. -/
theorem render_dateRange (ha : a.IsStatedBy first) (hb : b.IsStatedBy last)
    (hfirst : a.IsUtcText first') (hlast : b.IsUtcText last') (nanosecond nanosecond' : Nat) :
    (FilterValue.dateRange (a.instant nanosecond) (b.instant nanosecond')).render =
      some (datesText first' last') := by
  have hopen : "['" = "[" ++ "'" := rfl
  have hbetween : "','" = "'" ++ "," ++ "'" := rfl
  have hclose : "']" = "'" ++ "]" := rfl
  have hrender : (FilterValue.dateRange (a.instant nanosecond) (b.instant nanosecond')).render =
      some ("[" ++ quote (a.instant nanosecond).timestamp ++ "," ++
        quote (b.instant nanosecond').timestamp ++ "]") := rfl
  rw [hrender, (ha.isUtcText_timestamp nanosecond).unique hfirst,
    (hb.isUtcText_timestamp nanosecond').unique hlast, hfirst.quote_eq, hlast.quote_eq, datesText,
    hopen, hbetween, hclose]
  simp only [String.append_assoc]

/-- Two texts are read as the ends of a range exactly when both of them are timestamps. The range is
compiled, wherever in a document it stands, with the timestamps in universal time of the seconds
that they state. If these lie in the years 0 to 9999 they have the usual form and are read as the
ends of a range themselves, and a document with them in place of the given ones compiles to the
same text. -/
theorem compile_textEnds (field first last : String) :
    (ReadsAsDates field first last ↔
      (∃ a : ClockTime, a.IsStatedBy first) ∧ ∃ b : ClockTime, b.IsStatedBy last) ∧
    ∀ a b : ClockTime, a.IsStatedBy first → b.IsStatedBy last → ∃ first' last',
      a.IsUtcText first' ∧ b.IsUtcText last' ∧
      (ofJson (.object [(field, textEnds first last)])).map compile =
        .ok (field ++ ":" ++ datesText first' last') ∧
      (∀ (place : Place (String × Json)) filter,
        ofJson (.object (place.fillMembers [(field, textEnds first last)])) = .ok filter →
        ∃ front back, filter.compile = front ++ (":" ++ datesText first' last') ++ back) ∧
      (a.LiesInWrittenYears → b.LiesInWrittenYears →
        ClockTime.HasForm "YYYY-MM-DDTHH:MM:SSZ" first' ∧
        ClockTime.HasForm "YYYY-MM-DDTHH:MM:SSZ" last' ∧ ReadsAsDates field first' last' ∧
        ∀ (place : Place (String × Json)) filter,
          ofJson (.object (place.fillMembers [(field, textEnds first last)])) = .ok filter →
          ∃ filter', ofJson (.object (place.fillMembers [(field, textEnds first' last')])) =
              .ok filter' ∧ filter'.compile = filter.compile) := by
  refine ⟨readsAsDates_iff, fun a b ha hb => ?_⟩
  have hfirst := ha.isUtcText_timestamp 0
  have hlast := hb.isUtcText_timestamp 0
  obtain ⟨nanosecond, nanosecond', hstands⟩ := exists_standsFor_textEnds ha hb
  have hrender := render_dateRange ha hb hfirst hlast nanosecond nanosecond'
  refine ⟨_, _, hfirst, hlast, ?_, ?_, ?_⟩
  · rw [ofJson_textEnds hstands, Except.map, compile, conditionText, hrender]
    rfl
  · intro place filter hread
    obtain ⟨place', hjoined, -⟩ := exists_ofJson_of_standsFor hstands hread
    exact hjoined.exists_compile hrender
  · intro hyears hyears'
    obtain ⟨c, hc, hsecond⟩ := hfirst.exists_isStatedBy hyears
    obtain ⟨d, hd, hsecond'⟩ := hlast.exists_isStatedBy hyears'
    refine ⟨hfirst.hasForm hyears, hlast.hasForm hyears', readsAsDates_iff.2 ⟨⟨c, hc⟩, ⟨d, hd⟩⟩, ?_⟩
    intro place filter hread
    -- the rendered ends state the same seconds, and so they are rendered as themselves
    obtain ⟨again, again', hstands'⟩ := exists_standsFor_textEnds hc hd
    have hrender' := render_dateRange hc hd (hsecond.symm.isUtcText hfirst)
      (hsecond'.symm.isUtcText hlast) again again'
    exact exists_compile_eq_of_render_eq hstands hstands' (hrender.trans hrender'.symm) hread

/-- From a leap second five hours behind universal time, with a fraction and a space in front of the
time, to half an hour into the next year almost a day ahead of it: behind an operator the range
compiles to the same text as the one between the rendered ends. -/
theorem compile_textEnds_of_leapSecond :
    ClockTime.IsStatedBy ⟨⟨2016, 12, 31⟩, 18, 59, 60, -(3600 * (5 : Nat) + 60 * (0 : Nat))⟩
      "2016-12-31 18:59:60.25-05:00" ∧
    ClockTime.IsStatedBy ⟨⟨2017, 1, 1⟩, 0, 30, 0, 3600 * (23 : Nat) + 60 * (59 : Nat)⟩
      "2017-01-01t00:30:00+23:59" ∧
    ∃ first' last' filter filter',
      ofJson (.object [("not", .object [("seen", textEnds "2016-12-31 18:59:60.25-05:00"
        "2017-01-01t00:30:00+23:59")])]) = .ok filter ∧
      ofJson (.object [("not", .object [("seen", textEnds first' last')])]) = .ok filter' ∧
      filter'.compile = filter.compile ∧
      filter.compile = "(not seen:['2016-12-31T23:59:60Z','2016-12-31T00:31:00Z'])" := by
  have hdigits : ['2', '5'].all Char.isDigit = true := by decide
  have hfraction : IsFraction ['.', '2', '5'] := .digits (by decide) (List.all_eq_true.1 hdigits)
  have hfirst : ClockTime.IsStatedBy
      ⟨⟨2016, 12, 31⟩, 18, 59, 60, -(3600 * (5 : Nat) + 60 * (0 : Nat))⟩
      "2016-12-31 18:59:60.25-05:00" :=
    .intro ⟨by decide, by decide, by decide, by decide⟩ ⟨by decide, by decide⟩ (.inr (.inr rfl))
      hfraction (.behind (.inl rfl) (by decide) (by decide)) (by decide +kernel)
  have hlast : ClockTime.IsStatedBy
      ⟨⟨2017, 1, 1⟩, 0, 30, 0, 3600 * (23 : Nat) + 60 * (59 : Nat)⟩ "2017-01-01t00:30:00+23:59" :=
    .intro ⟨by decide, by decide, by decide, by decide⟩ ⟨by decide, by decide⟩ (.inr (.inl rfl))
      .none (.ahead (by decide) (by decide)) (by decide +kernel)
  have hread : ofJson (.object [("not", .object [("seen", textEnds "2016-12-31 18:59:60.25-05:00"
      "2017-01-01t00:30:00+23:59")])]) = .ok (logic .negation [condition "seen" (.dateRange
        ⟨1483228799, 250000000, true⟩ ⟨1483144260, 0, false⟩)]) := by
    have hinstant : Instant.ofTimestamp? "2016-12-31 18:59:60.25-05:00" =
        some ⟨1483228799, 250000000, true⟩ := by decide +kernel
    have hinstant' : Instant.ofTimestamp? "2017-01-01t00:30:00+23:59" =
        some ⟨1483144260, 0, false⟩ := by decide +kernel
    have hrange : MemberDescribes "seen" _ _ := .condition (.timestamps hinstant hinstant')
    have hnode : MemberDescribes Connective.negation.keyword _ _ := .node (.cons hrange .nil)
    exact ofJson_of_describes (.single (.cons hnode .nil))
  obtain ⟨first', last', -, -, -, -, hsame⟩ := (compile_textEnds "seen" _ _).2 _ _ hfirst hlast
  obtain ⟨-, -, -, hplace⟩ := hsame ⟨by decide, by decide⟩ ⟨by decide, by decide⟩
  obtain ⟨filter', hread', hcompile⟩ :=
    hplace (.behind [] [] .negation (.among [] [])) _ hread
  exact ⟨hfirst, hlast, first', last', _, filter', hread, hread', hcompile, by decide +kernel⟩

end Filter

end SearchDomain
