/-
  SearchDomain.Proofs.Number.Text

  The characters of which numbers are made in filters: digits, the point and the
  minus sign. None of them has a meaning of its own in the query language.
-/
import SearchDomain.Filter.Value

namespace SearchDomain

/-- The characters of which numbers and range literals are made. -/
def isNumberChar (c : Char) : Bool :=
  Text.isDecimalDigit c || c = '.' || c = '-'

theorem isNumberChar_of_isDigit {c : Char} (h : c.isDigit = true) : isNumberChar c = true := by
  simp [isNumberChar, Text.isDecimalDigit_of_isDigit h]

/-- A character of a number is none of the others. -/
theorem ne_of_isNumberChar {c d : Char} (hc : isNumberChar c = true)
    (hd : isNumberChar d = false) : c ≠ d := by
  rintro rfl
  rw [hc] at hd
  exact Bool.noConfusion hd

/-! ## Whole numbers -/

theorem toString_int_ne_empty (n : Int) : toString n ≠ "" := by
  rw [Int.toString_eq_repr, Int.repr_eq_if]
  split <;> simp

theorem mem_toString_int {n : Int} {c : Char} (hc : c ∈ (toString n).toList) :
    c.isDigit = true ∨ c = '-' := by
  have hdigits : ∀ m : Nat, c ∈ Nat.toDigits 10 m → c.isDigit = true :=
    fun m h => Nat.isDigit_of_mem_toDigits (by decide) (by decide) h
  rw [Int.toString_eq_repr, Int.repr_eq_if] at hc
  split at hc
  · rw [Nat.toList_repr] at hc
    exact .inl (hdigits _ hc)
  · rw [String.toList_append, Nat.toList_repr] at hc
    rcases List.mem_append.1 hc with h | h
    · exact .inr (List.mem_singleton.1 h)
    · exact .inl (hdigits _ h)

/-- A whole number is written in number characters, and without a point. -/
theorem isNumberChar_of_mem_toString_int {n : Int} {c : Char} (hc : c ∈ (toString n).toList) :
    isNumberChar c = true ∧ c ≠ '.' := by
  rcases mem_toString_int hc with h | rfl
  · refine ⟨isNumberChar_of_isDigit h, ?_⟩
    rintro rfl
    revert h
    decide
  · decide

/-! ## Binary64 numbers -/

namespace Layout

/-- Digits with a point among them are made of number characters. -/
theorem isNumberChar_of_mem_positional {layout : Layout} {digits : List Char} {position : Int}
    (hdigits : ∀ c ∈ digits, c.isDigit = true) {c : Char}
    (hc : c ∈ layout.positional digits position) : isNumberChar c = true := by
  have hmem : c ∈ digits ∨ c = '0' ∨ c = '.' := by
    unfold positional at hc
    split at hc
    · simp only [List.mem_cons, List.mem_append, List.mem_replicate] at hc
      grind
    · split at hc
      · simp only [List.mem_append, List.mem_replicate] at hc
        grind
      · simp only [List.mem_append, List.mem_cons] at hc
        have htake := List.mem_of_mem_take (a := c) (l := digits) (i := position.toNat)
        have hdrop := List.mem_of_mem_drop (a := c) (l := digits) (i := position.toNat)
        grind
  rcases hmem with h | rfl | rfl
  · exact isNumberChar_of_isDigit (hdigits c h)
  · decide
  · decide

/-- A layout without exponents writes a finite number in number characters only. -/
theorem isNumberChar_of_mem_finiteText {layout : Layout}
    (hlayout : ∀ leading, layout.isPositional leading = true) {x : Binary64} {c : Char}
    (hc : c ∈ layout.finiteText x) : isNumberChar c = true := by
  have hdigits : ∀ d ∈ Nat.toDigits 10 (Decimal.shortest layout.tie x).digits,
      d.isDigit = true :=
    fun d hd => Nat.isDigit_of_mem_toDigits (by decide) (by decide) hd
  simp only [finiteText, hlayout, if_true] at hc
  split at hc
  · rcases List.mem_cons.1 hc with rfl | h
    · decide
    · exact isNumberChar_of_mem_positional hdigits h
  · exact isNumberChar_of_mem_positional hdigits hc

end Layout

/-- A finite number in a filter is written in number characters only. -/
theorem Binary64.isNumberChar_of_mem_plainText {x : Binary64} (hx : x.isFinite = true) {c : Char}
    (hc : c ∈ x.plainText.toList) : isNumberChar c = true := by
  have hnan : x.isNaN = false := by
    simp only [isFinite, isNaN, decide_eq_true_eq, decide_eq_false_iff_not] at hx ⊢
    omega
  rw [plainText, Layout.text, hnan, hx] at hc
  simp only [Bool.false_eq_true, if_false, if_true, String.toList_ofList] at hc
  exact Layout.isNumberChar_of_mem_finiteText (fun _ => rfl) hc

/-! ## Range literals -/

/-- A range literal is written in number characters, a point among them. -/
theorem isNumberChar_of_isRangeLiteral {s : String} (h : FilterValue.isRangeLiteral s = true) :
    '.' ∈ s.toList ∧ ∀ c ∈ s.toList, isNumberChar c = true := by
  obtain ⟨ds, es, hs, hds, hes⟩ := FilterValue.isRangeLiteralChars_iff.1 h
  rw [hs]
  refine ⟨by simp, fun c hc => ?_⟩
  simp only [List.mem_append, List.mem_cons] at hc
  rcases hc with hc | rfl | rfl | hc
  · simp [isNumberChar, hds c hc]
  · decide
  · decide
  · simp [isNumberChar, hes c hc]

end SearchDomain
