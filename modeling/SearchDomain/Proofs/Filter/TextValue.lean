/-
  SearchDomain.Proofs.Filter.TextValue

  Texts as values of conditions. A text stands in a query as a literal, whose
  quotes keep it apart from the query around it; only a numeric range stands
  there as it is. Main statement: a text is written bare exactly when it is
  digits, two points and digits. Digits of every script count, so this is a
  range of ASCII digits only while no other digits are in it.
-/
import SearchDomain.Filter.Compile
import SearchDomain.Filter.OfJson

namespace SearchDomain

open Text (quote)

/-! ## Ranges -/

/-- Digits of a class or none, two points, digits or none. -/
def Text.IsRange (isDigit : Char → Bool) (cs : List Char) : Prop :=
  ∃ ds es, cs = ds ++ '.' :: '.' :: es ∧ (∀ c ∈ ds, isDigit c = true) ∧
    ∀ c ∈ es, isDigit c = true

namespace Text

variable {isDigit : Char → Bool} {cs : List Char}

theorem IsRange.mono {other : Char → Bool} (hdigit : ∀ c, isDigit c = true → other c = true)
    (h : IsRange isDigit cs) : IsRange other cs := by
  obtain ⟨ds, es, hcs, hds, hes⟩ := h
  exact ⟨ds, es, hcs, fun c hc => hdigit c (hds c hc), fun c hc => hdigit c (hes c hc)⟩

theorem IsRange.ne_nil (h : IsRange isDigit cs) : cs ≠ [] := by
  obtain ⟨ds, es, rfl, -, -⟩ := h
  exact List.append_ne_nil_of_right_ne_nil ds (List.cons_ne_nil _ _)

/-! ## Literals -/

theorem Quoted.length_le_length_escape (cs : List Char) :
    cs.length ≤ (Quoted.escape cs).length := by
  induction cs with
  | nil => exact Nat.le_refl 0
  | cons c cs ih =>
    have hchar : 1 ≤ (Quoted.escapeChar c).length := by
      unfold Quoted.escapeChar
      split <;> simp
    rw [Quoted.escape, List.flatMap_cons, List.length_append, List.length_cons]
    rw [Quoted.escape] at ih
    omega

/-- A literal is longer than its text. -/
theorem quote_ne_self (s : String) : quote s ≠ s := by
  intro h
  have hlength := congrArg List.length (congrArg String.toList h)
  have hescape := Quoted.length_le_length_escape s.toList
  rw [toList_quote, Quoted.literal, List.length_cons, List.length_append] at hlength
  omega

end Text

/-! ## Texts that are shown -/

/-- How a text is shown as the value of a field, where the digits of a range are those of a class:
not at all if it is empty, as it is if it is a range, as a literal if it is anything else. -/
structure TextShown (isDigit : Char → Bool) (field s : String) (shown : Option String) : Prop where
  pruned : shown = none ↔ s = ""
  bare : shown = some (field ++ ":" ++ s) ↔ Text.IsRange isDigit s.toList
  quoted : shown = some (field ++ ":" ++ quote s) ↔ s ≠ "" ∧ ¬Text.IsRange isDigit s.toList

namespace FilterValue

/-- A text is rendered in one of three ways. -/
theorem render_ofText_cases (s : String) :
    (s = "" ∧ (ofText s).render = none) ∨
    (Text.IsRange Text.isDecimalDigit s.toList ∧ (ofText s).render = some s) ∨
    ((s ≠ "" ∧ ¬Text.IsRange Text.isDecimalDigit s.toList) ∧
      (ofText s).render = some (quote s)) := by
  by_cases hempty : s = ""
  · subst hempty
    exact .inl ⟨rfl, rfl⟩
  · have hnonempty : s.isEmpty = false := by
      rw [← Bool.not_eq_true, String.isEmpty_iff]
      exact hempty
    by_cases hrange : isRangeLiteral s = true
    · refine .inr (.inl ⟨isRangeLiteralChars_iff.1 hrange, ?_⟩)
      rw [ofText, if_neg hempty, if_pos hrange, render, isEmpty, hnonempty]
      rfl
    · refine .inr (.inr ⟨⟨hempty, fun h => hrange (isRangeLiteralChars_iff.2 h)⟩, ?_⟩)
      rw [ofText, if_neg hempty, if_neg hrange, render, isEmpty, hnonempty]
      rfl

end FilterValue

namespace Filter

/-- In front of one field, a text and its literal are two texts. -/
theorem fieldText_ne_quoted (field s : String) : field ++ ":" ++ s ≠ field ++ ":" ++ quote s :=
  fun h => Text.quote_ne_self s (String.append_right_inj _ |>.1 h).symm

/-- A text is shown as a range when its digits are decimal digits of any script. -/
theorem textShown_ofText (field s : String) :
    TextShown Text.isDecimalDigit field s (conditionText field (.ofText s)) := by
  have hne := fieldText_ne_quoted field s
  rw [conditionText]
  rcases FilterValue.render_ofText_cases s with
    ⟨rfl, hrender⟩ | ⟨hrange, hrender⟩ | ⟨⟨hempty, hrange⟩, hrender⟩
  · have hnot : ¬Text.IsRange Text.isDecimalDigit "".toList := fun h => h.ne_nil rfl
    rw [hrender]
    exact ⟨⟨fun _ => rfl, fun _ => rfl⟩, ⟨nofun, fun h => absurd h hnot⟩,
      ⟨nofun, fun h => absurd rfl h.1⟩⟩
  · -- a range has its two points, so it is not the empty text that is left out
    have hempty : s ≠ "" := fun h => hrange.ne_nil (String.toList_eq_nil_iff.2 h)
    rw [hrender]
    exact ⟨⟨nofun, fun h => absurd h hempty⟩, ⟨fun _ => hrange, fun _ => rfl⟩,
      ⟨fun h => absurd (Option.some.inj h) hne, fun h => absurd hrange h.2⟩⟩
  · rw [hrender]
    exact ⟨⟨nofun, fun h => absurd h hempty⟩,
      ⟨fun h => absurd (Option.some.inj h).symm hne, fun h => absurd h hrange⟩,
      ⟨fun _ => ⟨hempty, hrange⟩, fun _ => rfl⟩⟩

/-- A text that goes by two classes of digits is a range of both or of neither. -/
theorem textShown_iff_of_textShown {isDigit other : Char → Bool} {field s : String}
    {shown : Option String} (hdigit : ∀ c, other c = true → isDigit c = true)
    (h : TextShown isDigit field s shown) :
    TextShown other field s shown ↔
      (Text.IsRange isDigit s.toList → Text.IsRange other s.toList) := by
  constructor
  · intro hother hrange
    exact hother.bare.1 (h.bare.2 hrange)
  · intro himp
    have hrange : Text.IsRange isDigit s.toList ↔ Text.IsRange other s.toList :=
      ⟨himp, Text.IsRange.mono hdigit⟩
    refine ⟨h.pruned, ?_, ?_⟩
    · rw [h.bare, hrange]
    · rw [h.quoted, hrange]

/-- A condition on a text, also one that JSON gives as a string, is left out when the text is empty,
has the text bare behind the colon when it is a range in decimal digits of any script, and has it
as a literal otherwise. With ASCII digits in place of these it is shown in the same way exactly
when the text is no range that has other digits. -/
theorem textValues_shown (field s : String) :
    ofJson (.object [(field, .string s)]) = .ok (condition field (.ofText s)) ∧
    (condition field (.ofText s)).compile = (conditionText field (.ofText s)).getD "" ∧
    TextShown Text.isDecimalDigit field s (conditionText field (.ofText s)) ∧
    (TextShown Char.isDigit field s (conditionText field (.ofText s)) ↔
      (Text.IsRange Text.isDecimalDigit s.toList → Text.IsRange Char.isDigit s.toList)) := by
  have hshown := textShown_ofText field s
  exact ⟨rfl, rfl, hshown,
    textShown_iff_of_textShown (fun _ => Text.isDecimalDigit_of_isDigit) hshown⟩

/-- Arabic-Indic digits around two points stand bare in the query. -/
theorem arabicDigits_not_quoted :
    conditionText "n" (.ofText "١..٢") = some "n:١..٢" ∧
      ¬TextShown Char.isDigit "n" "١..٢" (conditionText "n" (.ofText "١..٢")) := by
  have hbare : conditionText "n" (.ofText "١..٢") = some "n:١..٢" := by decide
  refine ⟨hbare, fun h => ?_⟩
  -- the first character would have to be one of the two points or an ASCII digit
  obtain ⟨ds, es, hcs, hds, hes⟩ := h.bare.1 hbare
  have hmem : '١' ∈ ds ++ '.' :: '.' :: es := hcs ▸ List.mem_cons_self
  simp only [List.mem_append, List.mem_cons] at hmem
  rcases hmem with hmem | hmem | hmem | hmem
  · exact absurd (hds _ hmem) (by decide)
  · exact absurd hmem (by decide)
  · exact absurd hmem (by decide)
  · exact absurd (hes _ hmem) (by decide)

end Filter

end SearchDomain
