/-
  SearchDomain.Proofs.Document.Nulls

  Nulls in the body of a batch. A null value is submitted as an empty text, at
  every depth of a list, and members without a value are left out. What is still
  written as `null` is what JSON has no number for: NaN and the infinities. Main
  statement: adding a document puts one `null` into the body for each of those.
-/
import SearchDomain.Document.Operation
import SearchDomain.Proofs.Document.Field
import SearchDomain.Proofs.Json.Nulls

namespace SearchDomain

/-! ## Fields -/

/-- How many of some numbers JSON cannot hold. -/
def Binary64.unwritable (xs : List Binary64) : Nat :=
  xs.countP fun x => !x.isFinite

theorem Binary64.unwritable_append (xs ys : List Binary64) :
    unwritable (xs ++ ys) = unwritable xs + unwritable ys :=
  List.countP_append

/-- None of some numbers is beyond JSON exactly if all are finite. -/
theorem Binary64.unwritable_eq_zero_iff {xs : List Binary64} :
    unwritable xs = 0 ↔ ∀ x ∈ xs, x.isFinite = true := by
  simp [unwritable, List.countP_eq_zero]

namespace FieldValue

/-- A number is written as `null` exactly if JSON cannot hold it. -/
theorem nullCount_real (x : Binary64) :
    (Json.real x).nullCount = Binary64.unwritable [x] := by
  rw [Json.real, Binary64.unwritable, List.countP_singleton]
  cases x.isFinite <;> rfl

mutual

/-- A submitted value has one null for each number that JSON cannot hold, and no other. -/
theorem nullCount_submitted : ∀ value : FieldValue,
    value.submitted.toJson.nullCount = Binary64.unwritable value.reals
  -- submitted as an empty text
  | null => rfl
  | bool _ => rfl
  | integer _ => rfl
  | real x => nullCount_real x
  | text _ => rfl
  | instant _ => rfl
  | list items => itemsNullCount_submittedAll items

theorem itemsNullCount_submittedAll : ∀ items : List FieldValue,
    Json.itemsNullCount (allToJson (submittedAll items)) =
      Binary64.unwritable (realsOfAll items)
  | [] => rfl
  | item :: rest => by
    rw [submittedAll, allToJson, Json.itemsNullCount, nullCount_submitted item,
      itemsNullCount_submittedAll rest, realsOfAll, Binary64.unwritable_append]

end

end FieldValue

theorem DocumentFields.nullCount_submitted (fields : DocumentFields) :
    fields.submitted.toJson.nullCount = Binary64.unwritable fields.reals := by
  rw [toJson, Json.nullCount]
  induction fields with
  | nil => rfl
  | cons field rest ih =>
    rw [submitted, List.map_cons, List.map_cons, Json.membersNullCount,
      FieldValue.nullCount_submitted, reals, List.flatMap_cons, Binary64.unwritable_append]
    exact congrArg _ ih

/-! ## Operations and batches -/

namespace Json

theorem membersNullCount_append (members more : List (String × Json)) :
    membersNullCount (members ++ more) = membersNullCount members + membersNullCount more := by
  induction members with
  | nil => exact (Nat.zero_add _).symm
  | cons member rest ih =>
    rw [List.cons_append, membersNullCount, membersNullCount, ih, Nat.add_assoc]

end Json

namespace DocumentOperation

/-- A member that may be missing is left out, and not written as `null`. -/
theorem membersNullCount_optionalMember {α : Type} (name : String) (value : Option α)
    {write : α → Json} (hwrite : ∀ a, (write a).nullCount = 0) :
    Json.membersNullCount (optionalMember name (value.map write)) = 0 := by
  cases value with
  | none => rfl
  | some a =>
    show (write a).nullCount + 0 = 0
    rw [Nat.add_zero, hwrite a]

/-- An operation that adds a document has the nulls of its fields, and no other. -/
theorem nullCount_toJson_add (id : String) (version : Option Int64) (language : Option String)
    (fields : DocumentFields) :
    (add id version language fields).toJson.nullCount = fields.toJson.nullCount := by
  have hversion : Json.membersNullCount
      (optionalMember "version" (version.map fun n => .whole n.toInt)) = 0 :=
    membersNullCount_optionalMember "version" version fun _ => rfl
  have hlanguage : Json.membersNullCount (optionalMember "lang" (language.map .string)) = 0 :=
    membersNullCount_optionalMember "lang" language fun _ => rfl
  rw [toJson, Json.nullCount, Json.membersNullCount_append, Json.membersNullCount_append,
    Json.membersNullCount_append, hversion, hlanguage]
  simp [Json.membersNullCount, Json.nullCount]

end DocumentOperation

namespace DocumentBatch

open DocumentOperation (adding)

/-- The body that adds a document has one `null` for each NaN and each infinity among its fields,
at every depth. There is none exactly if all numbers are finite. -/
theorem nullsIn_body_adding (id : String) (fields : DocumentFields) (api : ApiVersion)
    (now : Int64) :
    Json.nullsIn (single (adding id fields api now)).body = Binary64.unwritable fields.reals ∧
      (Json.nullsIn (single (adding id fields api now)).body = 0 ↔
        ∀ x ∈ fields.reals, x.isFinite = true) := by
  have hcount : Json.nullsIn (single (adding id fields api now)).body =
      Binary64.unwritable fields.reals := by
    calc Json.nullsIn (single (adding id fields api now)).body
      _ = (single (adding id fields api now)).toJson.nullCount := Json.nullsIn_compact _
      _ = (adding id fields api now).toJson.nullCount + 0 := rfl
      _ = fields.submitted.toJson.nullCount := by
        rw [Nat.add_zero, adding, DocumentOperation.nullCount_toJson_add]
      _ = Binary64.unwritable fields.reals := fields.nullCount_submitted
  refine ⟨hcount, ?_⟩
  rw [hcount, Binary64.unwritable_eq_zero_iff]

/-- NaN is submitted, and as `null`. -/
theorem null_in_body_of_nan :
    (single (adding "4" [("n", .real (Binary64.nan false))] .structured 1371837000)).body =
        "[\x7b\"type\":\"add\",\"id\":\"4\",\"fields\":\x7b\"n\":null\x7d\x7d]" ∧
      Json.nullsIn (single (adding "4" [("n", .real (Binary64.nan false))] .structured
        1371837000)).body ≠ 0 := by
  decide +kernel

end DocumentBatch

end SearchDomain
