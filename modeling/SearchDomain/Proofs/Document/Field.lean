/-
  SearchDomain.Proofs.Document.Field

  Field values written in JSON and read again. A value without instants, and
  without NaN and infinities, is read back from its JSON as it was. Values become
  such by being submitted, and a value that was read from JSON is one already.
-/
import SearchDomain.Document.Decode
import SearchDomain.Proofs.Json.Decode
import SearchDomain.Proofs.Number.Binary64

namespace SearchDomain

namespace FieldValue

mutual

/-- The binary64 numbers in a value, at every depth. -/
def reals : FieldValue → List Binary64
  | real x => [x]
  | list items => realsOfAll items
  | _ => []

/-- The binary64 numbers in several values. -/
def realsOfAll : List FieldValue → List Binary64
  | [] => []
  | item :: rest => item.reals ++ realsOfAll rest

end

mutual

/-- Whether JSON can hold a value as it stands: there are no instants in JSON, no NaN and no
infinities. -/
def isLiteral : FieldValue → Bool
  | real x => x.isFinite
  | instant _ => false
  | list items => allLiteral items
  | _ => true

/-- Whether JSON can hold all values as they stand. -/
def allLiteral : List FieldValue → Bool
  | [] => true
  | item :: rest => item.isLiteral && allLiteral rest

end

/-! ## Whole numbers -/

/-- A 64-bit integer is found in a JSON number again. -/
theorem toInt64?_whole_toInt (n : Int64) : (JsonNumber.whole n.toInt).toInt64? = some n := by
  have hle : -0x8000000000000000 ≤ n.toInt := n.le_toInt
  have hlt : n.toInt < 0x8000000000000000 := n.toInt_lt
  rw [JsonNumber.toInt64?, if_pos ⟨hle, hlt⟩, Int64.ofInt_toInt]

theorem isProper_whole_toInt (test : Binary64 → Bool) (n : Int64) :
    (Json.whole n.toInt).isProper test = true := by
  have hle : -0x8000000000000000 ≤ n.toInt := n.le_toInt
  have hlt : n.toInt < 0x8000000000000000 := n.toInt_lt
  have hwide : n.toInt < 0x10000000000000000 := by omega
  rw [Json.whole, Json.isProper, JsonNumber.isProper, decide_eq_true hle, decide_eq_true hwide]
  rfl

/-- A proper number is finite in binary64. -/
theorem isFinite_toBinary64 {n : JsonNumber} (h : n.isProper Binary64.isFinite = true) :
    n.toBinary64.isFinite = true := by
  cases n with
  | whole n =>
    rw [JsonNumber.isProper, Bool.and_eq_true, decide_eq_true_eq, decide_eq_true_eq] at h
    have habs : n.natAbs ≤ Nat.pow 2 64 := by
      show n.natAbs ≤ 0x10000000000000000
      omega
    exact Binary64.isFinite_ofInt (by decide) habs
  | real x => exact h

/-! ## Submitted values -/

mutual

/-- A finite value is submitted as a value that JSON can hold. -/
theorem isLiteral_submitted : ∀ {value : FieldValue},
    (∀ x ∈ value.reals, x.isFinite = true) → value.submitted.isLiteral = true
  | null, _ => rfl
  | bool _, _ => rfl
  | integer _, _ => rfl
  | real x, h => h x (List.mem_singleton_self x)
  | text _, _ => rfl
  | instant _, _ => rfl
  | list _, h => allLiteral_submittedAll h

theorem allLiteral_submittedAll : ∀ {items : List FieldValue},
    (∀ x ∈ realsOfAll items, x.isFinite = true) → allLiteral (submittedAll items) = true
  | [], _ => rfl
  | item :: rest, h => by
    have hitem : item.submitted.isLiteral = true :=
      isLiteral_submitted fun x hx => h x (List.mem_append_left _ hx)
    have hrest : allLiteral (submittedAll rest) = true :=
      allLiteral_submittedAll fun x hx => h x (List.mem_append_right _ hx)
    rw [submittedAll, allLiteral, hitem, hrest]
    rfl

end

/-! ## Values in JSON -/

theorem decodeAll_cons (item : Json) (rest : List Json) :
    decodeAll (item :: rest) =
      decode item >>= fun value => (decodeAll rest).map (value :: ·) := by
  rw [decodeAll]
  cases decode item <;> rfl

mutual

/-- A value that JSON can hold is read from its JSON as the same value. -/
theorem decode_toJson : ∀ {value : FieldValue}, value.isLiteral = true →
    decode value.toJson = .ok value
  | null, _ => rfl
  | bool _, _ => rfl
  | integer n, _ => by
    rw [toJson, Json.whole, decode, toInt64?_whole_toInt]
  | real x, h => by
    rw [isLiteral] at h
    rw [toJson, Json.real, if_pos h]
    rfl
  | text _, _ => rfl
  | list items, h => by
    rw [toJson, decode, decodeAll_allToJson h]
    rfl

theorem decodeAll_allToJson : ∀ {items : List FieldValue}, allLiteral items = true →
    decodeAll (allToJson items) = .ok items
  | [], _ => rfl
  | item :: rest, h => by
    rw [allLiteral, Bool.and_eq_true] at h
    rw [allToJson, decodeAll_cons, decode_toJson h.1, decodeAll_allToJson h.2]
    rfl

end

mutual

/-- The JSON of a value is proper if the finite numbers in the value pass the test. -/
theorem isProper_toJson {test : Binary64 → Bool} : ∀ {value : FieldValue},
    (∀ x ∈ value.reals, x.isFinite = true → test x = true) →
      value.toJson.isProper test = true
  | null, _ => rfl
  | bool _, _ => rfl
  | integer n, _ => isProper_whole_toInt test n
  | real x, h => by
    rw [toJson, Json.real]
    by_cases hfinite : x.isFinite = true
    · rw [if_pos hfinite]
      exact h x (List.mem_singleton_self x) hfinite
    · rw [if_neg hfinite]
      rfl
  | text _, _ => rfl
  | instant _, _ => rfl
  | list _, h => allProper_allToJson h

theorem allProper_allToJson {test : Binary64 → Bool} : ∀ {items : List FieldValue},
    (∀ x ∈ realsOfAll items, x.isFinite = true → test x = true) →
      Json.allProper test (allToJson items) = true
  | [], _ => rfl
  | item :: rest, h => by
    have hitem : item.toJson.isProper test = true :=
      isProper_toJson fun x hx => h x (List.mem_append_left _ hx)
    have hrest : Json.allProper test (allToJson rest) = true :=
      allProper_allToJson fun x hx => h x (List.mem_append_right _ hx)
    rw [allToJson, Json.allProper, hitem, hrest]
    rfl

end

mutual

/-- A value that was read from JSON is one that JSON can hold. -/
theorem isLiteral_of_decode : ∀ {json : Json} {value : FieldValue},
    json.isWellFormed = true → decode json = .ok value → value.isLiteral = true
  | .null, _, _, h => by cases h; rfl
  | .bool _, _, _, h => by cases h; rfl
  | .number n, value, hjson, h => by
    rw [decode] at h
    split at h
    next => cases h; rfl
    next => cases h; exact isFinite_toBinary64 hjson
  | .string _, _, _, h => by cases h; rfl
  | .array items, value, hjson, h => by
    rw [decode] at h
    obtain ⟨values, hitems, rfl⟩ := DecodeError.map_eq_ok.1 h
    exact allLiteral_of_decodeAll hjson hitems
  | .object _, _, _, h => by cases h

theorem allLiteral_of_decodeAll : ∀ {jsons : List Json} {values : List FieldValue},
    Json.allProper Binary64.isFinite jsons = true → decodeAll jsons = .ok values →
      allLiteral values = true
  | [], _, _, h => by cases h; rfl
  | json :: rest, values, hjson, h => by
    rw [Json.allProper, Bool.and_eq_true] at hjson
    rw [decodeAll_cons, DecodeError.bind_eq_ok] at h
    obtain ⟨value, hfirst, h⟩ := h
    obtain ⟨more, hrest, rfl⟩ := DecodeError.map_eq_ok.1 h
    rw [allLiteral, isLiteral_of_decode hjson.1 hfirst, allLiteral_of_decodeAll hjson.2 hrest]
    rfl

end

end FieldValue

/-! ## Fields -/

namespace DocumentFields

/-- The binary64 numbers in fields. -/
def reals (fields : DocumentFields) : List Binary64 :=
  fields.flatMap fun field => field.2.reals

/-- Fields that JSON can hold as they stand: with distinct names, and with such values. -/
structure IsLiteral (fields : DocumentFields) : Prop where
  nodup : (Entries.names fields).Nodup
  literal : ∀ field ∈ fields, field.2.isLiteral = true

/-- Submitting leaves the names as they are. -/
theorem names_submitted (fields : DocumentFields) :
    Entries.names fields.submitted = Entries.names fields := by
  rw [Entries.names, Entries.names, submitted, List.map_map]
  rfl

theorem isLiteral_submitted {fields : DocumentFields} (hnames : (Entries.names fields).Nodup)
    (hfinite : ∀ x ∈ fields.reals, x.isFinite = true) : fields.submitted.IsLiteral where
  nodup := by rwa [names_submitted]
  literal := by
    intro field hfield
    obtain ⟨original, horiginal, rfl⟩ := List.mem_map.1 hfield
    have hreals : ∀ x ∈ original.2.reals, x.isFinite = true := by
      intro x hx
      exact hfinite x (List.mem_flatMap.2 ⟨original, horiginal, hx⟩)
    exact FieldValue.isLiteral_submitted hreals

theorem decodeMembers_cons (name : String) (json : Json) (rest : List (String × Json)) :
    decodeMembers ((name, json) :: rest) =
      FieldValue.decode json >>= fun value => (decodeMembers rest).map ((name, value) :: ·) := by
  rw [decodeMembers]
  cases FieldValue.decode json <;> rfl

/-- Fields that JSON can hold are read from their members as the same fields. -/
theorem decodeMembers_toJson (fields : DocumentFields)
    (h : ∀ field ∈ fields, field.2.isLiteral = true) :
    decodeMembers (fields.map fun field => (field.1, field.2.toJson)) = .ok fields := by
  induction fields with
  | nil => rfl
  | cons field rest ih =>
    have hfield : field.2.isLiteral = true := h field List.mem_cons_self
    have hrest := ih fun other hother => h other (List.mem_cons_of_mem _ hother)
    rw [List.map_cons, decodeMembers_cons, FieldValue.decode_toJson hfield, hrest]
    rfl

theorem decode_toJson {fields : DocumentFields} (h : fields.IsLiteral) :
    decode fields.toJson = .ok fields :=
  decodeMembers_toJson fields h.literal

theorem allMembersProper_toJson {test : Binary64 → Bool} {fields : DocumentFields}
    (h : ∀ x ∈ fields.reals, x.isFinite = true → test x = true) :
    Json.allMembersProper test (fields.map fun field => (field.1, field.2.toJson)) = true := by
  induction fields with
  | nil => rfl
  | cons field rest ih =>
    rw [reals, List.flatMap_cons] at h
    have hfield : field.2.toJson.isProper test = true :=
      FieldValue.isProper_toJson fun x hx => h x (List.mem_append_left _ hx)
    have hrest := ih fun x hx => h x (List.mem_append_right _ hx)
    rw [List.map_cons, Json.allMembersProper, hfield, hrest]
    rfl

/-- The JSON of fields is proper if names are distinct and the finite numbers pass the test. -/
theorem isProper_toJson {test : Binary64 → Bool} {fields : DocumentFields}
    (hnames : (Entries.names fields).Nodup)
    (h : ∀ x ∈ fields.reals, x.isFinite = true → test x = true) :
    fields.toJson.isProper test = true := by
  have hnodup : (Entries.names (fields.map fun field => (field.1, field.2.toJson))).Nodup := by
    rw [Entries.names, List.map_map]
    exact hnames
  rw [toJson, Json.isProper, decide_eq_true hnodup, allMembersProper_toJson h]
  rfl

/-- What was read from the members of a well-formed object is what JSON can hold. -/
theorem of_decodeMembers {members : List (String × Json)} {fields : DocumentFields}
    (hproper : Json.allMembersProper Binary64.isFinite members = true)
    (h : decodeMembers members = .ok fields) :
    Entries.names fields = Entries.names members ∧
      ∀ field ∈ fields, field.2.isLiteral = true := by
  induction members generalizing fields with
  | nil =>
    cases h
    exact ⟨rfl, by simp⟩
  | cons member rest ih =>
    obtain ⟨name, json⟩ := member
    rw [Json.allMembersProper, Bool.and_eq_true] at hproper
    rw [decodeMembers_cons, DecodeError.bind_eq_ok] at h
    obtain ⟨value, hfirst, h⟩ := h
    obtain ⟨more, hrest, rfl⟩ := DecodeError.map_eq_ok.1 h
    obtain ⟨hnames, hliteral⟩ := ih hproper.2 hrest
    refine ⟨congrArg (name :: ·) hnames, ?_⟩
    intro field hfield
    rcases List.mem_cons.1 hfield with rfl | hmore
    · exact FieldValue.isLiteral_of_decode hproper.1 hfirst
    · exact hliteral field hmore

theorem isLiteral_of_decode {json : Json} {fields : DocumentFields}
    (hjson : json.isWellFormed = true) (h : decode json = .ok fields) : fields.IsLiteral := by
  cases json with
  | object members =>
    rw [Json.isWellFormed, Json.isProper, Bool.and_eq_true, decide_eq_true_eq] at hjson
    obtain ⟨hnames, hliteral⟩ := of_decodeMembers hjson.2 h
    exact ⟨hnames ▸ hjson.1, hliteral⟩
  | null | bool | number | string | array => cases h

end DocumentFields

end SearchDomain
