/-
  SearchDomain.Filter.Value

  The value side of a filter condition, and how values of other kinds become
  one.
-/
import SearchDomain.Calendar.Instant
import SearchDomain.Number.Layout
import SearchDomain.Text.Digit

namespace SearchDomain

/-- What a field is compared with. -/
inductive FilterValue where
  /-- A whole number. -/
  | integer (n : Int64)
  /-- A numeric range that is already written in the query language. -/
  | rangeLiteral (text : String)
  /-- The instants from the first to the last. -/
  | dateRange (first last : Instant)
  /-- The numbers from the least to the greatest. -/
  | numericRange (least greatest : Binary64)
  /-- A text. -/
  | scalar (text : String)
  /-- Nothing: the condition is left out. -/
  | empty
deriving DecidableEq, Repr

namespace FilterValue

/-- Whether the condition with this value is left out: there is no value, its text is empty, or a
bound of its range is not finite. -/
def isEmpty : FilterValue → Bool
  | empty => true
  | scalar text => text.isEmpty
  | rangeLiteral text => text.isEmpty
  | numericRange least greatest => !least.isFinite || !greatest.isFinite
  | integer _ => false
  | dateRange _ _ => false

/-! ## Texts -/

/-- Decimal digits or none, two points, decimal digits or none. -/
def isRangeLiteralChars (cs : List Char) : Bool :=
  match cs.dropWhile Text.isDecimalDigit with
  | '.' :: '.' :: rest => rest.all Text.isDecimalDigit
  | _ => false

/-- What stands around the two points is digits, and nothing else. -/
theorem isRangeLiteralChars_iff {cs : List Char} :
    isRangeLiteralChars cs = true ↔ ∃ ds es, cs = ds ++ '.' :: '.' :: es ∧
      (∀ c ∈ ds, Text.isDecimalDigit c = true) ∧ ∀ c ∈ es, Text.isDecimalDigit c = true := by
  constructor
  · intro h
    have hsplit := List.takeWhile_append_dropWhile (p := Text.isDecimalDigit) (l := cs)
    unfold isRangeLiteralChars at h
    split at h
    next es hdrop =>
      rw [hdrop] at hsplit
      exact ⟨_, es, hsplit.symm, fun c hc => List.all_eq_true.1 List.all_takeWhile c hc,
        List.all_eq_true.1 h⟩
    next => exact absurd h Bool.false_ne_true
  · rintro ⟨ds, es, rfl, hds, hes⟩
    have hdrop : (ds ++ '.' :: '.' :: es).dropWhile Text.isDecimalDigit = '.' :: '.' :: es := by
      rw [List.dropWhile_append_of_pos hds, List.dropWhile_cons_of_neg (by decide)]
    rw [isRangeLiteralChars, hdrop]
    exact List.all_eq_true.2 hes

/-- Whether a text is a numeric range of the query language, such as `10..20` or `10..`. -/
def isRangeLiteral (s : String) : Bool :=
  isRangeLiteralChars s.toList

/-- An empty text says nothing, a numeric range stands for itself, any other text is a scalar. -/
def ofText (s : String) : FilterValue :=
  if s = "" then empty
  else if isRangeLiteral s then rangeLiteral s
  else scalar s

/-! ## Other kinds -/

def ofBool (b : Bool) : FilterValue :=
  scalar (if b then "true" else "false")

/-- A binary64 number as its plain decimal text. -/
def ofReal (x : Binary64) : FilterValue :=
  scalar x.plainText

/-- A value that may be missing. -/
def ofOption {α : Type} (convert : α → FilterValue) : Option α → FilterValue
  | some a => convert a
  | none => empty

/-! ## Ranges -/

/-- The whole numbers from the least to the greatest, in binary64. -/
def ofClosedIntegers (least greatest : Int64) : FilterValue :=
  numericRange (Binary64.ofInt least.toInt) (Binary64.ofInt greatest.toInt)

/-- The whole numbers from the least up to, and without, the bound. -/
def ofHalfOpenIntegers (least bound : Int64) : FilterValue :=
  if least < bound then ofClosedIntegers least (bound - 1) else empty

/-- The days from the first to the last, from midnight to midnight. -/
def ofClosedDates (first last : Date) : FilterValue :=
  dateRange (Instant.midnight first) (Instant.midnight last)

/-- The days from the first up to, and without, the bound. -/
def ofHalfOpenDates (first bound : Date) : FilterValue :=
  match bound.pred? with
  | some last => if first.isBefore bound then ofClosedDates first last else empty
  | none => empty

end FilterValue

end SearchDomain
