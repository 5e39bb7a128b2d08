/-
  SearchDomain.Proofs.Filter.OfJson

  Conditions built from values and conditions built from JSON. A value of each
  kind has a JSON form, and a filter whose only member is a field with that form
  is the condition on the value itself: an integer, a truth value, a text, no
  value, and ranges between integers, numbers and instants. A number by itself is
  the exception, since JSON always writes it with a point or an exponent, and a
  condition on the number only where it has a fraction.
-/
import SearchDomain.Filter.Compile
import SearchDomain.Filter.OfJson
import SearchDomain.Proofs.Calendar.Timestamp
import SearchDomain.Proofs.Number.Text

namespace SearchDomain

/-! ## Numbers -/

namespace Layout

/-- A layout that ends whole numbers in `.0` writes a point or an exponent into each number. -/
theorem point_or_exponent_mem_finiteText {layout : Layout} (hpoint : layout.pointZero = true)
    (x : Binary64) : '.' ∈ layout.finiteText x ∨ 'e' ∈ layout.finiteText x := by
  have hpositional : ∀ digits position, '.' ∈ layout.positional digits position := by
    intro digits position
    unfold positional
    split
    · simp
    · split
      · simp
      · simp
  have hscientific : ∀ digits leading, 'e' ∈ scientific digits leading := by
    intro digits leading
    simp [scientific]
  unfold finiteText
  dsimp only
  split <;> split
  · exact .inl (List.mem_cons_of_mem _ (hpositional _ _))
  · exact .inr (List.mem_cons_of_mem _ (hscientific _ _))
  · exact .inl (hpositional _ _)
  · exact .inr (hscientific _ _)

end Layout

namespace Binary64

variable {x : Binary64}

theorem toList_jsonText (hx : x.isFinite = true) :
    x.jsonText.toList = jsonLayout.finiteText x := by
  have hnan : x.isNaN = false := by
    simp only [isFinite, isNaN, decide_eq_true_eq, decide_eq_false_iff_not] at hx ⊢
    omega
  rw [jsonText, Layout.text, hnan, hx]
  exact String.toList_ofList

/-- A finite number that is written alike in JSON and in filters is written with a point. -/
theorem point_mem_plainText (hx : x.isFinite = true) (h : x.jsonText = x.plainText) :
    '.' ∈ x.plainText.toList := by
  have hmem := @Layout.point_or_exponent_mem_finiteText jsonLayout rfl x
  rw [← toList_jsonText hx, h] at hmem
  rcases hmem with hpoint | hexponent
  · exact hpoint
  · -- in filters no number has an exponent
    have hnumber := isNumberChar_of_mem_plainText hx hexponent
    exact absurd hnumber (by decide)

end Binary64

/-! ## Operands -/

/-- A value of a kind from which conditions are built and for which JSON has a form. -/
inductive FilterOperand where
  | none
  | bool (b : Bool)
  | integer (n : Int64)
  | text (s : String)
  | real (x : Binary64)
  /-- The whole numbers between two. -/
  | integers (least greatest : Int64)
  /-- The numbers between two. -/
  | reals (least greatest : Binary64)
  /-- The instants between two. -/
  | instants (first last : Instant)

namespace FilterOperand

/-- What a field is compared with in a condition on the operand. -/
def value : FilterOperand → FilterValue
  | none => FilterValue.ofOption FilterValue.ofText Option.none
  | bool b => FilterValue.ofBool b
  | integer n => .integer n
  | text s => FilterValue.ofText s
  | real x => FilterValue.ofReal x
  | integers least greatest => FilterValue.ofClosedIntegers least greatest
  | reals least greatest => .numericRange least greatest
  | instants first last => .dateRange first last

/-- The operand in JSON: a range as an array of its ends, an instant as its RFC 3339 text. -/
def toJson : FilterOperand → Json
  | none => .null
  | bool b => .bool b
  | integer n => .whole n.toInt
  | text s => .string s
  | real x => .real x
  | integers least greatest => .array [.whole least.toInt, .whole greatest.toInt]
  | reals least greatest => .array [.real least, .real greatest]
  | instants first last => .array [.string first.rfc3339, .string last.rfc3339]

/-- Whether JSON has a form for the operand: numbers must be finite, and instants within the years
that RFC 3339 can write. -/
def IsProper : FilterOperand → Prop
  | real x => x.isFinite = true
  | reals least greatest => least.isFinite = true ∧ greatest.isFinite = true
  | instants first last => first.IsWritable ∧ last.IsWritable
  | _ => True

end FilterOperand

namespace FilterValue

theorem ofJson_whole (field : String) (n : Int64) :
    ofJson field (.whole n.toInt) = .ok (integer n) := by
  have hle : -0x8000000000000000 ≤ n.toInt := n.le_toInt
  have hlt : n.toInt < 0x8000000000000000 := n.toInt_lt
  rw [Json.whole, ofJson, JsonNumber.toInt64?, if_pos ⟨hle, hlt⟩, Int64.ofInt_toInt]

theorem ofJson_real (field : String) {x : Binary64} (hx : x.isFinite = true) :
    ofJson field (.real x) = .ok (scalar x.jsonText) := by
  rw [Json.real, if_pos hx]
  rfl

/-- Two numbers are the ends of a range between them in binary64. -/
theorem ofJson_numbers (field : String) {least greatest : Json} {x y : Binary64}
    (hx : least.asBinary64? = some x) (hy : greatest.asBinary64? = some y) :
    ofJson field (.array [least, greatest]) = .ok (numericRange x y) := by
  rw [ofJson, rangeOfJson, hx, hy]

/-- Two timestamps are the ends of a range between the instants that they spell. -/
theorem ofJson_timestamps (field : String) {first last : String} {s t : Instant}
    (hs : Instant.ofTimestamp? first = some s) (ht : Instant.ofTimestamp? last = some t) :
    ofJson field (.array [.string first, .string last]) = .ok (dateRange s t) := by
  have hfirst : instantOfJson? (.string first) = some s := hs
  have hlast : instantOfJson? (.string last) = some t := ht
  rw [ofJson, rangeOfJson, hfirst, hlast]
  rfl

/-- The JSON form of an operand that is no number by itself stands for the operand's value. -/
theorem ofJson_toJson (field : String) {operand : FilterOperand} (h : operand.IsProper)
    (hreal : ∀ x, operand ≠ .real x) : ofJson field operand.toJson = .ok operand.value := by
  cases operand with
  | none => rfl
  | bool b => rfl
  | integer n => exact ofJson_whole field n
  | text s => rfl
  | real x => exact absurd rfl (hreal x)
  | integers least greatest => exact ofJson_numbers field rfl rfl
  | reals least greatest =>
    refine ofJson_numbers field ?_ ?_
    · rw [Json.real, if_pos h.1]
      rfl
    · rw [Json.real, if_pos h.2]
      rfl
  | instants first last =>
    exact ofJson_timestamps field (Instant.ofTimestamp?_rfc3339 h.1)
      (Instant.ofTimestamp?_rfc3339 h.2)

end FilterValue

/-! ## Filters with one member -/

namespace Filter

/-- A filter with one field that has no object for a value is the condition on that field. -/
theorem ofJson_single {field : String} {json : Json} {value : FilterValue}
    (hobject : ∀ members, json ≠ .object members)
    (h : FilterValue.ofJson field json = .ok value) :
    ofJson (.object [(field, json)]) = .ok (.condition field value) := by
  have hmember : ofMember field json = .ok (.condition field value) := by
    rw [ofMember, h]
    · rfl
    · exact hobject
  rw [ofJson, ofMembers, hmember]
  rfl

theorem toJson_ne_object {operand : FilterOperand} (h : operand.IsProper) (members) :
    operand.toJson ≠ .object members := by
  cases operand with
  | real x =>
    have hx : x.isFinite = true := h
    rw [FilterOperand.toJson, Json.real, if_pos hx]
    exact Json.noConfusion
  | none | bool | integer | text | integers | reals | instants => exact Json.noConfusion

/-- A filter with one field, whose value is the JSON form of an operand, is the condition on the
operand, unless the operand is a number by itself that JSON writes in another way. Then it is the
condition on the number's JSON text as a text; and so it is for every number that is written
without a point. -/
theorem ofJson_toJson_iff (field : String) {operand : FilterOperand} (h : operand.IsProper) :
    (ofJson (.object [(field, operand.toJson)]) = .ok (.condition field operand.value) ↔
      ∀ x, operand = .real x → x.jsonText = x.plainText) ∧
    ∀ x, operand = .real x →
      ofJson (.object [(field, operand.toJson)]) = .ok (.condition field (.scalar x.jsonText)) ∧
      (x.jsonText = x.plainText → '.' ∈ x.plainText.toList) := by
  have hobject := toJson_ne_object h
  have hnumber : ∀ x, operand = .real x →
      ofJson (.object [(field, operand.toJson)]) = .ok (.condition field (.scalar x.jsonText)) := by
    rintro x rfl
    exact ofJson_single hobject (FilterValue.ofJson_real field h)
  refine ⟨⟨?_, ?_⟩, ?_⟩
  · rintro heq x rfl
    rw [hnumber x rfl] at heq
    simpa [FilterOperand.value, FilterValue.ofReal] using heq
  · intro halike
    by_cases hreal : ∃ x, operand = .real x
    · obtain ⟨x, rfl⟩ := hreal
      rw [hnumber x rfl, halike x rfl]
      rfl
    · rw [not_exists] at hreal
      exact ofJson_single hobject (FilterValue.ofJson_toJson field h hreal)
  · rintro x rfl
    exact ⟨hnumber x rfl, Binary64.point_mem_plainText h⟩

/-- A range from a leap second to the middle of the second behind it. -/
theorem ofJson_toJson_iff_of_leap :
    ofJson (.object [("seen", .array [.string "1998-12-31T23:59:60Z",
        .string "1999-01-01T00:00:00.500000000Z"])]) =
      .ok (.condition "seen"
        (.dateRange ⟨915148799, 0, true⟩ ⟨915148800, 500000000, false⟩)) := by
  have hfirst : Instant.IsWritable ⟨915148799, 0, true⟩ :=
    ⟨by decide, by decide, by decide, fun _ => by decide⟩
  have hlast : Instant.IsWritable ⟨915148800, 500000000, false⟩ :=
    ⟨by decide, by decide, by decide, fun h => absurd h (by decide)⟩
  have hfirstText : Instant.rfc3339 ⟨915148799, 0, true⟩ = "1998-12-31T23:59:60Z" := by
    decide +kernel
  have hlastText : Instant.rfc3339 ⟨915148800, 500000000, false⟩ =
      "1999-01-01T00:00:00.500000000Z" := by decide +kernel
  have hrange := (@ofJson_toJson_iff "seen" (.instants _ _) ⟨hfirst, hlast⟩).1.2
    (fun _ h => by cases h)
  rw [FilterOperand.toJson, hfirstText, hlastText] at hrange
  exact hrange

/-- The number one makes a condition on `1.0` in JSON and on `1` by itself. -/
theorem ofJson_one_ne_condition :
    ofJson (.object [("price", .real ⟨false, 0x3FF0000000000000⟩)]) ≠
        .ok (.condition "price" (FilterValue.ofReal ⟨false, 0x3FF0000000000000⟩)) ∧
      (ofJson (.object [("price", .real ⟨false, 0x3FF0000000000000⟩)])).map compile =
        .ok "price:'1.0'" ∧
      compile (.condition "price" (FilterValue.ofReal ⟨false, 0x3FF0000000000000⟩)) =
        "price:'1'" := by
  have hjsonText : Binary64.jsonText ⟨false, 0x3FF0000000000000⟩ = "1.0" := by decide +kernel
  have hplainText : Binary64.plainText ⟨false, 0x3FF0000000000000⟩ = "1" := by decide +kernel
  have hjson : ofJson (.object [("price", .real ⟨false, 0x3FF0000000000000⟩)]) =
      .ok (.condition "price" (.scalar "1.0")) := by
    rw [← hjsonText]
    exact ofJson_single (fun _ h => by cases h) (FilterValue.ofJson_real "price" (by decide))
  rw [hjson, FilterValue.ofReal, hplainText]
  refine ⟨?_, by decide +kernel, by decide +kernel⟩
  simp

end Filter

end SearchDomain
