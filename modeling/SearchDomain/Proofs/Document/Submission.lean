/-
  SearchDomain.Proofs.Document.Submission

  What becomes of a JSON object whose members are submitted as the fields of a
  document. Each member keeps its name and its place, `null` becomes the empty
  text, an object its compact text, and lists are taken item by item. Main
  statement: beyond that a value changes only by its whole numbers from two to the
  power of 63 on, which are taken in binary64; within an object's text they stay.
-/
import SearchDomain.Proofs.Document.Field

namespace SearchDomain

namespace JsonNumber

/-- The exact value of a number, in units of `2 ^ -1074`. -/
def units : JsonNumber → Int
  | whole n => n * Binary64.unitsPerOne
  | real x => if x.negative then -x.units else x.units

/-- The number that a field holds for a number: whole numbers of more than 63 bits are taken in
binary64. -/
def inField : JsonNumber → JsonNumber
  | whole n => if n < 0x8000000000000000 then whole n else real (Binary64.ofInt n)
  | real x => real x

/-- Whether a field holds a number as it is. -/
def isWithinField : JsonNumber → Bool
  | whole n => n < 0x8000000000000000
  | real _ => true

theorem inField_of_isWithinField {n : JsonNumber} (h : n.isWithinField = true) :
    n.inField = n := by
  cases n with
  | whole n => exact if_pos (of_decide_eq_true h)
  | real x => rfl

end JsonNumber

namespace Json

section

variable (onNumber : JsonNumber → JsonNumber)

mutual

/-- A value as a field shows it: `null` as the empty text, an object as its compact text, an array
item by item, and a number as it is told. -/
def fieldForm : Json → Json
  | null => string ""
  | number n => number (onNumber n)
  | array items => array (allFieldForm items)
  | object members => string (object members).compact
  | other => other

/-- Values as fields show them. -/
def allFieldForm : List Json → List Json
  | [] => []
  | item :: rest => fieldForm item :: allFieldForm rest

end

end

mutual

/-- The numbers in a value that stand in no object. -/
def outerNumbers : Json → List JsonNumber
  | number n => [n]
  | array items => allOuterNumbers items
  | _ => []

/-- The numbers in values that stand in no object. -/
def allOuterNumbers : List Json → List JsonNumber
  | [] => []
  | item :: rest => item.outerNumbers ++ allOuterNumbers rest

end

mutual

/-- The form depends on what becomes of the numbers that stand in no object. -/
theorem fieldForm_congr {onNumber other : JsonNumber → JsonNumber} : ∀ {json : Json},
    (∀ n ∈ json.outerNumbers, onNumber n = other n) →
      json.fieldForm onNumber = json.fieldForm other
  | null, _ => rfl
  | bool _, _ => rfl
  | number n, h => congrArg number (h n (List.mem_singleton_self n))
  | string _, _ => rfl
  | array _, h => congrArg array (allFieldForm_congr h)
  | object _, _ => rfl

theorem allFieldForm_congr {onNumber other : JsonNumber → JsonNumber} : ∀ {items : List Json},
    (∀ n ∈ allOuterNumbers items, onNumber n = other n) →
      allFieldForm onNumber items = allFieldForm other items
  | [], _ => rfl
  | item :: rest, h => by
    have hitem : item.fieldForm onNumber = item.fieldForm other :=
      fieldForm_congr fun n hn => h n (List.mem_append_left _ hn)
    have hrest : allFieldForm onNumber rest = allFieldForm other rest :=
      allFieldForm_congr fun n hn => h n (List.mem_append_right _ hn)
    rw [allFieldForm, allFieldForm, hitem, hrest]

end

end Json

namespace FieldValue

theorem toJson_submitted_real {x : Binary64} (h : x.isFinite = true) :
    (real x).submitted.toJson = .number (.real x) :=
  if_pos h

/-- The field for a number holds it as it is, or in binary64. -/
theorem toJson_submitted_number {n : JsonNumber} (h : n.isProper Binary64.isFinite = true) :
    (ofJson (.number n)).submitted.toJson = .number n.inField := by
  cases n with
  | whole n =>
    have hfinite := isFinite_toBinary64 h
    rw [JsonNumber.toBinary64] at hfinite
    rw [JsonNumber.isProper, Bool.and_eq_true, decide_eq_true_eq, decide_eq_true_eq] at h
    by_cases hsmall : n < 0x8000000000000000
    · have hint : (Int64.ofInt n).toInt = n := Int64.toInt_ofInt_of_le (by omega) (by omega)
      rw [ofJson, JsonNumber.toInt64?, if_pos ⟨h.1, hsmall⟩, JsonNumber.inField, if_pos hsmall]
      exact congrArg Json.whole hint
    · have hfield : ofJson (.number (.whole n)) = real (Binary64.ofInt n) := by
        rw [ofJson, JsonNumber.toInt64?, if_neg fun hrange => hsmall hrange.2,
          JsonNumber.toBinary64]
      rw [hfield, JsonNumber.inField, if_neg hsmall]
      exact toJson_submitted_real hfinite
  | real x => exact toJson_submitted_real h

mutual

/-- What a value is submitted as, in JSON, is its field form. -/
theorem toJson_submitted_ofJson : ∀ {json : Json}, json.isWellFormed = true →
    (ofJson json).submitted.toJson = json.fieldForm JsonNumber.inField
  | .null, _ => rfl
  | .bool _, _ => rfl
  | .number _, h => toJson_submitted_number h
  | .string _, _ => rfl
  | .array _, h => congrArg Json.array (allToJson_submittedAll_allOfJson h)
  | .object _, _ => rfl

theorem allToJson_submittedAll_allOfJson : ∀ {items : List Json},
    Json.allProper Binary64.isFinite items = true →
      allToJson (submittedAll (allOfJson items)) = Json.allFieldForm JsonNumber.inField items
  | [], _ => rfl
  | item :: rest, h => by
    rw [Json.allProper, Bool.and_eq_true] at h
    rw [allOfJson, submittedAll, allToJson, Json.allFieldForm, toJson_submitted_ofJson h.1,
      allToJson_submittedAll_allOfJson h.2]

end

end FieldValue

namespace DocumentOperation

/-- The fields of an added document stand under their name in its JSON. -/
theorem member?_fields_toJson (id : String) (fields : DocumentFields) (api : ApiVersion)
    (now : Int64) :
    (adding id fields api now).toJson.member? "fields" = some fields.submitted.toJson := by
  cases api <;>
    simp [adding, toJson, optionalMember, Json.member?, Entries.find?, List.lookup_cons,
      ApiVersion.operationVersion, ApiVersion.documentLanguage]

/-- An object gives fields that are submitted under the same names in the same order, each in its
field form; where no number outside of nested objects is a whole number of more than 63 bits, each
number is as it was. -/
theorem fields_submitted (id : String) (members : List (String × Json)) (api : ApiVersion)
    (now : Int64) (hjson : (Json.object members).isWellFormed = true) :
    ∃ fields json, DocumentFields.ofJson? (.object members) = some fields ∧
      (DocumentBatch.single (adding id fields api now)).body = (Json.array [json]).compact ∧
      json.member? "fields" = some (.object (members.map fun member =>
        (member.1, member.2.fieldForm JsonNumber.inField))) ∧
      ((∀ member ∈ members, ∀ n ∈ member.2.outerNumbers, n.isWithinField = true) →
        json.member? "fields" = some (.object (members.map fun member =>
          (member.1, member.2.fieldForm fun n => n)))) := by
  rw [Json.isWellFormed, Json.isProper, Bool.and_eq_true] at hjson
  have hform : ∀ member ∈ members, (FieldValue.ofJson member.2).submitted.toJson =
      member.2.fieldForm JsonNumber.inField := fun member hmember =>
    FieldValue.toJson_submitted_ofJson (Json.isProper_of_mem_members hjson.2 hmember)
  have hfields : DocumentFields.toJson (DocumentFields.submitted (members.map fun member =>
      (member.1, FieldValue.ofJson member.2))) =
      .object (members.map fun member => (member.1, member.2.fieldForm JsonNumber.inField)) := by
    rw [DocumentFields.toJson, DocumentFields.submitted, List.map_map, List.map_map]
    refine congrArg Json.object (List.map_congr_left fun member hmember => ?_)
    exact congrArg (Prod.mk member.1) (hform member hmember)
  refine ⟨_, _, rfl, rfl, ?_, ?_⟩
  · rw [member?_fields_toJson, hfields]
  · intro hwithin
    rw [member?_fields_toJson, hfields]
    refine congrArg (fun forms => some (Json.object forms)) (List.map_congr_left ?_)
    intro member hmember
    refine congrArg (Prod.mk member.1) (Json.fieldForm_congr fun n hn => ?_)
    exact JsonNumber.inField_of_isWithinField (hwithin member hmember n hn)

/-- A nested object, lists with `null`, and the greatest whole number that is kept. -/
theorem fields_submitted_of_nested :
    ∃ fields json, DocumentFields.ofJson? (.object [("a", .array [.null, .array [.null]]),
        ("b", .object [("z", .whole 18446744073709551615)]), ("c", .whole 9223372036854775807)]) =
          some fields ∧
      (DocumentBatch.single (adding "4" fields .structured 0)).body =
        (Json.array [json]).compact ∧
      json.member? "fields" = some (.object [("a", .array [.string "", .array [.string ""]]),
        ("b", .string "\x7b\"z\":18446744073709551615\x7d"),
        ("c", .whole 9223372036854775807)]) := by
  obtain ⟨fields, json, hfields, hbody, -, hkept⟩ := fields_submitted "4"
    [("a", .array [.null, .array [.null]]), ("b", .object [("z", .whole 18446744073709551615)]),
      ("c", .whole 9223372036854775807)] .structured 0 (by decide)
  exact ⟨fields, json, hfields, hbody, hkept (by decide)⟩

/-- An object with one member gives one field. -/
theorem fields_submitted_of_single (id name : String) (json : Json) (api : ApiVersion)
    (now : Int64) :
    DocumentFields.ofJson? (.object [(name, json)]) = some [(name, FieldValue.ofJson json)] ∧
      (adding id [(name, FieldValue.ofJson json)] api now).toJson.member? "fields" =
        some (.object [(name, (FieldValue.ofJson json).submitted.toJson)]) :=
  ⟨rfl, member?_fields_toJson id _ api now⟩

/-- The greatest whole number of 64 bits is submitted as another number. -/
theorem fields_submitted_not_exact :
    ∃ fields n, DocumentFields.ofJson? (.object [("n", .whole 18446744073709551615)]) =
        some fields ∧
      (adding "4" fields .structured 0).toJson.member? "fields" =
        some (.object [("n", .number n)]) ∧
      n.units ≠ (JsonNumber.whole 18446744073709551615).units := by
  obtain ⟨hfields, hmember⟩ :=
    fields_submitted_of_single "4" "n" (.whole 18446744073709551615) .structured 0
  have hnumber := FieldValue.toJson_submitted_number
    (show (JsonNumber.whole 18446744073709551615).isProper Binary64.isFinite = true by decide)
  have hround : Binary64.ofInt 18446744073709551615 = ⟨false, 0x43F0000000000000⟩ := by
    decide +kernel
  have hunits : (JsonNumber.real ⟨false, 0x43F0000000000000⟩).units ≠
      (JsonNumber.whole 18446744073709551615).units := by decide +kernel
  rw [JsonNumber.inField, if_neg (by decide), hround] at hnumber
  rw [Json.whole, hnumber] at hmember
  exact ⟨_, _, hfields, hmember, hunits⟩

end DocumentOperation

end SearchDomain
