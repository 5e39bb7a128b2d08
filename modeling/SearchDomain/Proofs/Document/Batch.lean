/-
  SearchDomain.Proofs.Document.Batch

  Batches written and read again. An operation is written with its kind first and
  without the members that have no value, and read by the kind and by the names;
  whatever its fields are, if JSON can hold them, it comes back as it was. Main
  statement: a batch that arose by adding or deleting a document, or that was
  itself read from JSON, is read back from its body.
-/
import SearchDomain.Proofs.Document.Field

namespace SearchDomain

namespace DocumentOperation

/-- The binary64 numbers in the fields of an operation. -/
def reals : DocumentOperation → List Binary64
  | add _ _ _ fields => fields.reals
  | delete _ _ => []

/-- Whether JSON can hold the fields of an operation as they stand. -/
def IsLiteral : DocumentOperation → Prop
  | add _ _ _ fields => fields.IsLiteral
  | delete _ _ => True

/-! ## Operations in JSON -/

theorem decodeVersion_whole (n : Int64) : decodeVersion (.whole n.toInt) = .ok (some n) := by
  have hle : -0x8000000000000000 ≤ n.toInt := n.le_toInt
  have hlt : n.toInt < 0x8000000000000000 := n.toInt_lt
  rw [decodeVersion, Json.decodeOption, Json.whole, Json.decodeInt64, if_pos ⟨hle, hlt⟩,
    Int64.ofInt_toInt]
  · rfl
  · exact Json.noConfusion

theorem decodeLanguage_string (s : String) : decodeLanguage (.string s) = .ok (some s) := rfl

/-- An operation whose fields JSON can hold is read from its JSON as the same operation. -/
theorem decode_toJson {operation : DocumentOperation} (h : operation.IsLiteral) :
    decode operation.toJson = .ok operation := by
  cases operation with
  | add id version language fields =>
    have hfields : DocumentFields.decode fields.toJson = .ok fields :=
      DocumentFields.decode_toJson h
    -- whichever of the two members are left out, each reader finds the member that it asks for
    cases version <;> cases language <;>
      simp [toJson, decode, decodeKind, decodeMembers, optionalMember, Entries.find?,
        List.lookup_cons, Json.checkMembers, Json.checkWith, Json.memberOr, Json.decodeString,
        decodeVersion_whole, decodeLanguage_string, hfields, bind, Except.bind, Except.map, pure,
        Except.pure]
  | delete id version =>
    cases version <;>
      simp [toJson, decode, decodeKind, decodeMembers, optionalMember, Entries.find?,
        List.lookup_cons, Json.checkMembers, Json.checkWith, Json.memberOr, Json.decodeString,
        decodeVersion_whole, bind, Except.bind, Except.map, pure, Except.pure]

/-- The JSON of an operation is proper if the finite numbers in its fields pass the test. -/
theorem isProper_toJson {test : Binary64 → Bool} {operation : DocumentOperation}
    (h : operation.IsLiteral) (htest : ∀ x ∈ operation.reals, x.isFinite = true → test x = true) :
    operation.toJson.isProper test = true := by
  cases operation with
  | add id version language fields =>
    have hfields : fields.toJson.isProper test = true :=
      DocumentFields.isProper_toJson h.nodup htest
    cases version <;> cases language <;>
      simp [toJson, optionalMember, Json.isProper, Json.allMembersProper, Entries.names,
        FieldValue.isProper_whole_toInt, hfields]
  | delete id version =>
    cases version <;>
      simp [toJson, optionalMember, Json.isProper, Json.allMembersProper, Entries.names,
        FieldValue.isProper_whole_toInt]

/-- An operation that was read from the members of a well-formed object can be held by JSON. -/
theorem isLiteral_of_decodeMembers {members : Entries Json} {kind : Kind}
    {operation : DocumentOperation}
    (hproper : Json.allMembersProper Binary64.isFinite members = true)
    (h : decodeMembers members kind = .ok operation) : operation.IsLiteral := by
  cases kind with
  | add =>
    rw [decodeMembers] at h
    obtain ⟨-, -, h⟩ := DecodeError.bind_eq_ok.1 h
    obtain ⟨id, -, h⟩ := DecodeError.bind_eq_ok.1 h
    obtain ⟨version, -, h⟩ := DecodeError.bind_eq_ok.1 h
    obtain ⟨language, -, h⟩ := DecodeError.bind_eq_ok.1 h
    obtain ⟨fields, hfields, h⟩ := DecodeError.bind_eq_ok.1 h
    cases h
    -- of all that was read only the fields matter, and they came from one of the members
    obtain ⟨json, hfind, hdecode⟩ := Json.memberOr_eq_ok hfields
    exact DocumentFields.isLiteral_of_decode (Json.isProper_of_find? hproper hfind) hdecode
  | delete =>
    rw [decodeMembers] at h
    obtain ⟨-, -, h⟩ := DecodeError.bind_eq_ok.1 h
    obtain ⟨id, -, h⟩ := DecodeError.bind_eq_ok.1 h
    obtain ⟨version, -, h⟩ := DecodeError.bind_eq_ok.1 h
    cases h
    trivial

/-- An operation that was read from the items of a well-formed array can be held by JSON. -/
theorem isLiteral_of_decodeItems {items : List Json} {kind : Kind} {operation : DocumentOperation}
    (hproper : Json.allProper Binary64.isFinite items = true)
    (h : decodeItems items kind = .ok operation) : operation.IsLiteral := by
  cases kind with
  | add =>
    rw [decodeItems] at h
    obtain ⟨id, -, h⟩ := DecodeError.bind_eq_ok.1 h
    obtain ⟨version, -, h⟩ := DecodeError.bind_eq_ok.1 h
    obtain ⟨language, -, h⟩ := DecodeError.bind_eq_ok.1 h
    obtain ⟨fields, hfields, h⟩ := DecodeError.bind_eq_ok.1 h
    obtain ⟨-, -, h⟩ := DecodeError.bind_eq_ok.1 h
    cases h
    obtain ⟨json, hmem, hdecode⟩ := Json.itemOr_eq_ok hfields
    exact DocumentFields.isLiteral_of_decode (Json.isProper_of_mem hproper hmem) hdecode
  | delete =>
    rw [decodeItems] at h
    obtain ⟨id, -, h⟩ := DecodeError.bind_eq_ok.1 h
    obtain ⟨version, -, h⟩ := DecodeError.bind_eq_ok.1 h
    obtain ⟨-, -, h⟩ := DecodeError.bind_eq_ok.1 h
    cases h
    trivial

/-- An operation that was read from a well-formed value can be held by JSON. -/
theorem isLiteral_of_decode {json : Json} {operation : DocumentOperation}
    (hjson : json.isWellFormed = true) (h : decode json = .ok operation) :
    operation.IsLiteral := by
  cases json with
  | object members =>
    rw [Json.isWellFormed, Json.isProper, Bool.and_eq_true] at hjson
    rw [decode] at h
    split at h
    next => cases h
    next =>
      obtain ⟨kind, -, h⟩ := DecodeError.bind_eq_ok.1 h
      exact isLiteral_of_decodeMembers hjson.2 h
  | array items =>
    cases items with
    | nil => cases h
    | cons first rest =>
      rw [Json.isWellFormed, Json.isProper, Json.allProper, Bool.and_eq_true] at hjson
      obtain ⟨kind, -, h⟩ := DecodeError.bind_eq_ok.1 h
      exact isLiteral_of_decodeItems hjson.2 h
  | null | bool | number | string => cases h

end DocumentOperation

/-! ## Batches -/

namespace DocumentBatch

/-- The binary64 numbers in the fields of a batch. -/
def reals (batch : DocumentBatch) : List Binary64 :=
  batch.operations.flatMap DocumentOperation.reals

/-- Whether JSON can hold the fields of a batch as they stand. -/
def IsLiteral (batch : DocumentBatch) : Prop :=
  ∀ operation ∈ batch.operations, operation.IsLiteral

/-- How a batch arises: a document is added, its fields under distinct names and without NaN and
infinities, or deleted, or the batch is read from a value of a JSON text. -/
inductive Arises : DocumentBatch → Prop
  | added (id : String) (fields : DocumentFields) (api : ApiVersion) (now : Int64)
      (hnames : (Entries.names fields).Nodup) (hfinite : ∀ x ∈ fields.reals, x.isFinite = true) :
      Arises (single (.adding id fields api now))
  | deleted (id : String) (api : ApiVersion) (now : Int64) :
      Arises (single (.deleting id api now))
  | decoded (json : Json) (batch : DocumentBatch) (hjson : json.isWellFormed = true)
      (hdecode : decode json = .ok batch) : Arises batch

theorem isLiteral_of_mapM {items : List Json} {operations : List DocumentOperation}
    (hproper : Json.allProper Binary64.isFinite items = true)
    (h : items.mapM DocumentOperation.decode = .ok operations) :
    ∀ operation ∈ operations, operation.IsLiteral := by
  induction items generalizing operations with
  | nil =>
    rw [List.mapM_nil] at h
    cases h
    simp
  | cons item rest ih =>
    rw [Json.allProper, Bool.and_eq_true] at hproper
    rw [List.mapM_cons] at h
    obtain ⟨first, hfirst, h⟩ := DecodeError.bind_eq_ok.1 h
    obtain ⟨more, hmore, h⟩ := DecodeError.bind_eq_ok.1 h
    cases h
    intro operation hoperation
    rcases List.mem_cons.1 hoperation with rfl | hrest
    · exact DocumentOperation.isLiteral_of_decode hproper.1 hfirst
    · exact ih hproper.2 hmore operation hrest

/-- However a batch arises, JSON can hold its fields. -/
theorem Arises.isLiteral {batch : DocumentBatch} (h : Arises batch) : batch.IsLiteral := by
  cases h with
  | added id fields api now hnames hfinite =>
    intro operation hoperation
    cases List.mem_singleton.1 hoperation
    exact DocumentFields.isLiteral_submitted hnames hfinite
  | deleted id api now =>
    intro operation hoperation
    cases List.mem_singleton.1 hoperation
    trivial
  | decoded json _ hjson hdecode =>
    obtain ⟨operations, hlist, rfl⟩ := DecodeError.map_eq_ok.1 hdecode
    cases json with
    | array items => exact isLiteral_of_mapM hjson hlist
    | null | bool | number | string | object => cases hlist

theorem mapM_decode_toJson {operations : List DocumentOperation}
    (h : ∀ operation ∈ operations, operation.IsLiteral) :
    (operations.map DocumentOperation.toJson).mapM DocumentOperation.decode = .ok operations := by
  induction operations with
  | nil => rfl
  | cons operation rest ih =>
    have hfirst := DocumentOperation.decode_toJson (h operation List.mem_cons_self)
    have hrest := ih fun other hother => h other (List.mem_cons_of_mem _ hother)
    rw [List.map_cons, List.mapM_cons, hfirst, hrest]
    rfl

/-- A batch whose fields JSON can hold is read from its JSON as the same batch. -/
theorem decode_toJson {batch : DocumentBatch} (h : batch.IsLiteral) :
    decode batch.toJson = .ok batch := by
  rw [decode, toJson, Json.decodeList, mapM_decode_toJson h]
  rfl

theorem allProper_toJson {test : Binary64 → Bool} {operations : List DocumentOperation}
    (h : ∀ operation ∈ operations, operation.IsLiteral ∧
      ∀ x ∈ operation.reals, x.isFinite = true → test x = true) :
    Json.allProper test (operations.map DocumentOperation.toJson) = true := by
  induction operations with
  | nil => rfl
  | cons operation rest ih =>
    obtain ⟨hliteral, hreals⟩ := h operation List.mem_cons_self
    have hrest := ih fun other hother => h other (List.mem_cons_of_mem _ hother)
    rw [List.map_cons, Json.allProper, DocumentOperation.isProper_toJson hliteral hreals, hrest]
    rfl

/-- The JSON of a batch is proper if the finite numbers in its fields pass the test. -/
theorem isProper_toJson {test : Binary64 → Bool} {batch : DocumentBatch} (h : batch.IsLiteral)
    (htest : ∀ x ∈ batch.reals, x.isFinite = true → test x = true) :
    batch.toJson.isProper test = true := by
  apply allProper_toJson
  intro operation hoperation
  refine ⟨h operation hoperation, fun x hx => htest x ?_⟩
  exact List.mem_flatMap.2 ⟨operation, hoperation, hx⟩

/-- A batch that arose by adding or deleting a document or by reading is read back from its body,
if the body nests at most 127 containers and the finite numbers in it are read back. -/
theorem decode_read_body {batch : DocumentBatch} (h : Arises batch)
    (hdepth : batch.toJson.depth ≤ 127)
    (hreals : ∀ x ∈ batch.reals, x.isFinite = true → x.ReadsBack) :
    (Json.read batch.body).map decode = some (.ok batch) := by
  have hliteral : batch.IsLiteral := h.isLiteral
  have hreadable : batch.toJson.isReadable = true :=
    isProper_toJson hliteral fun x hx hfinite => decide_eq_true (hreals x hx hfinite)
  rw [body, Json.read_compact hreadable hdepth, Option.map_some, decode_toJson hliteral]

/-- An added document with a binary64 number, and with no value, an instant and an integer at
several depths. -/
theorem decode_read_body_of_nested :
    Binary64.ReadsBack ⟨false, 0x3FB999999999999A⟩ ∧
      (Json.read (body (single (.adding "7"
        [("price", .real ⟨false, 0x3FB999999999999A⟩),
          ("seen", .list [.null, .instant ⟨1700000000, 5, false⟩,
            .list [.integer (-1), .bool true]])]
        .legacy 1700000000)))).map decode =
      some (.ok (single (.adding "7"
        [("price", .real ⟨false, 0x3FB999999999999A⟩),
          ("seen", .list [.null, .instant ⟨1700000000, 5, false⟩,
            .list [.integer (-1), .bool true]])]
        .legacy 1700000000))) := by
  have hprice : Binary64.ReadsBack ⟨false, 0x3FB999999999999A⟩ := by decide +kernel
  refine ⟨hprice, decode_read_body (.added _ _ _ _ (by decide) (by decide)) (by decide) ?_⟩
  intro x hx _
  cases List.mem_singleton.1 hx
  exact hprice

end DocumentBatch

end SearchDomain
