/-
  SearchDomain.Proofs.Text.Quoted

  A literal marks its own end. The scan that starts behind the opening quote
  gives back the text of the literal and stops at the closing quote, whatever
  follows it, so two texts that begin with a literal agree only if the literals
  and what follows them agree.

  A text may end in a backslash or be a run of backslashes and quotes, and a
  quote behind an odd run of backslashes closes nothing. Main statement: with
  any text behind a literal, the place at which the scan stops is the literal's
  last character.
-/
import SearchDomain.Text.Quoted

namespace SearchDomain.Text

namespace Quoted

/-! ## What is written and what a scan reads -/

/-- The scan takes an escaped character for the character. -/
theorem scan_escapeChar_append (c : Char) (rest : List Char) :
    scan (escapeChar c ++ rest) = (scan rest).map fun found => (c :: found.1, found.2) := by
  by_cases h : c = '\\' ∨ c = '\''
  · rw [escapeChar, if_pos h]
    simp [scan]
  · rw [escapeChar, if_neg h]
    rw [not_or] at h
    simp [scan, h]

/-- The scan stops at the closing quote, whatever follows. -/
theorem scan_escape_append (cs rest : List Char) :
    scan (escape cs ++ '\'' :: rest) = some (cs, rest) := by
  induction cs with
  | nil => simp [escape, scan]
  | cons c cs ih =>
    have hsplit : escape (c :: cs) ++ '\'' :: rest =
        escapeChar c ++ (escape cs ++ '\'' :: rest) := by
      simp [escape]
    rw [hsplit, scan_escapeChar_append, ih, Option.map_some]

/-- Characters that need no escape stand for themselves. -/
theorem escape_eq_self {cs : List Char} (h : ∀ c ∈ cs, c ≠ '\\' ∧ c ≠ '\'') : escape cs = cs := by
  induction cs with
  | nil => rfl
  | cons c cs ih =>
    rw [List.forall_mem_cons] at h
    have hplain : escapeChar c = [c] := if_neg (not_or.2 h.1)
    have hrest : escape cs = cs := ih h.2
    rw [escape, List.flatMap_cons, hplain]
    exact congrArg (c :: ·) hrest

/-- A literal can be cut off the front of a text in one way only. -/
theorem literal_append_inj {cs ds rest rest' : List Char}
    (h : literal cs ++ rest = literal ds ++ rest') : cs = ds ∧ rest = rest' := by
  have htail : escape cs ++ '\'' :: rest = escape ds ++ '\'' :: rest' := by
    simpa [literal] using h
  have hscan := congrArg scan htail
  rw [scan_escape_append, scan_escape_append] at hscan
  simpa using hscan

/-! ## The place where a scan stops -/

/-- How many characters a scan from behind an opening quote passes before it stops at a quote,
a backslash being passed together with the character behind it. -/
def passed? : List Char → Option Nat
  | [] => none
  | '\'' :: _ => some 0
  | ['\\'] => none
  | '\\' :: _ :: rest => (passed? rest).map (· + 2)
  | _ :: rest => (passed? rest).map (· + 1)

/-- In any text, a scan that reads a literal has passed what stands in front of the quote at which
it stops. -/
theorem exists_passed?_of_scan {cs text rest : List Char} (h : scan cs = some (text, rest)) :
    ∃ inside, cs = inside ++ '\'' :: rest ∧ passed? cs = some inside.length := by
  fun_induction scan cs generalizing text with
  | case1 => cases h
  | case2 behind =>
    obtain ⟨-, rfl⟩ := Prod.mk.inj (Option.some.inj h)
    exact ⟨[], rfl, rfl⟩
  | case3 => cases h
  | case4 c behind ih =>
    obtain ⟨found, hfound, hread⟩ := Option.map_eq_some_iff.1 h
    obtain ⟨-, rfl⟩ := Prod.mk.inj hread
    obtain ⟨inside, hinside, hpassed⟩ := ih hfound
    refine ⟨'\\' :: c :: inside, congrArg ('\\' :: c :: ·) hinside, ?_⟩
    rw [passed?, hpassed, Option.map_some, List.length_cons, List.length_cons]
  | case5 c behind hquote hlone hpair ih =>
    obtain ⟨found, hfound, hread⟩ := Option.map_eq_some_iff.1 h
    obtain ⟨-, rfl⟩ := Prod.mk.inj hread
    obtain ⟨inside, hinside, hpassed⟩ := ih hfound
    refine ⟨c :: inside, congrArg (c :: ·) hinside, ?_⟩
    rw [passed?, hpassed, Option.map_some, List.length_cons]
    all_goals assumption

/-- The scan passes what was written between the quotes. -/
theorem passed?_escape_append (cs rest : List Char) :
    passed? (escape cs ++ '\'' :: rest) = some (escape cs).length := by
  obtain ⟨inside, hinside, hpassed⟩ := exists_passed?_of_scan (scan_escape_append cs rest)
  -- both stand in front of the same quote
  rw [hpassed, List.append_cancel_right hinside]

end Quoted

/-! ## Literals in front of a text -/

/-- The place of the quote that closes the literal at the front of a text, counted from the
opening quote. -/
def closingQuote? (text : String) : Option Nat :=
  match text.toList with
  | '\'' :: behind => (Quoted.passed? behind).map (· + 1)
  | _ => none

/-- Two texts that begin with a literal agree when the literals and what follows them agree. -/
theorem quote_append_eq_iff (s t x y : String) :
    quote s ++ x = quote t ++ y ↔ s = t ∧ x = y := by
  constructor
  · intro h
    have hchars : Quoted.literal s.toList ++ x.toList = Quoted.literal t.toList ++ y.toList := by
      rw [← toList_quote, ← toList_quote, ← String.toList_append, ← String.toList_append, h]
    obtain ⟨hs, hx⟩ := Quoted.literal_append_inj hchars
    exact ⟨String.toList_inj.1 hs, String.toList_inj.1 hx⟩
  · rintro ⟨rfl, rfl⟩
    rfl

theorem length_quote (s : String) : (quote s).length = (Quoted.escape s.toList).length + 2 := by
  rw [← String.length_toList, toList_quote, Quoted.literal, List.length_cons, List.length_append,
    List.length_singleton]

/-- The scan stops at the last character of a literal. -/
theorem closingQuote?_quote_append (s x : String) :
    closingQuote? (quote s ++ x) = some ((Quoted.escape s.toList).length + 1) := by
  have hchars : (quote s ++ x).toList =
      '\'' :: (Quoted.escape s.toList ++ '\'' :: x.toList) := by
    rw [String.toList_append, toList_quote, Quoted.literal, List.cons_append, List.append_assoc,
      List.singleton_append]
  simp only [closingQuote?, hchars, Quoted.passed?_escape_append, Option.map_some]

/-- A literal delimits itself. With any texts behind them, two literals give one text only if they
are literals of one text and what stands behind them is the same; and with any text behind it, the
scan from behind the opening quote of a literal stops at the literal's last character and nowhere
else. -/
theorem quote_delimitsItself (s t x y : String) :
    (quote s ++ x = quote t ++ y ↔ s = t ∧ x = y) ∧
      ∀ place, closingQuote? (quote s ++ x) = some place ↔ place + 1 = (quote s).length := by
  refine ⟨quote_append_eq_iff s t x y, fun place => ?_⟩
  rw [closingQuote?_quote_append, length_quote, Option.some_inj]
  omega

/-- Neither the escaped quote nor the one that follows the literal is taken for the end. -/
example : closingQuote? (quote "\\'" ++ "'x'") = some 5 := by decide

end SearchDomain.Text
