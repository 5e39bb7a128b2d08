/-
  SearchDomain.Proofs.Json.Decode

  Readers that succeed. What a chain of readers gives was given by each of them,
  the members and items that they read are proper where the record is, and what
  they give is spelled there, or is the usual value where a part is missing.
-/
import Mathlib.Data.List.Forall2
import SearchDomain.Json.Decode
import SearchDomain.Proofs.Json.RoundTrip

namespace SearchDomain

/-! ## Readers one after another -/

section

variable {α β : Type} {first : Except DecodeError α}

theorem DecodeError.bind_eq_ok {next : α → Except DecodeError β} {b : β} :
    first >>= next = .ok b ↔ ∃ a, first = .ok a ∧ next a = .ok b := by
  cases first with
  | error e => simp [bind, Except.bind]
  | ok a => simp [bind, Except.bind]

theorem DecodeError.map_eq_ok {f : α → β} {b : β} :
    first.map f = .ok b ↔ ∃ a, first = .ok a ∧ f a = b := by
  cases first with
  | error e => simp [Except.map]
  | ok a => simp [Except.map]

end

namespace Json

variable {test : Binary64 → Bool}

theorem isProper_of_mem {items : List Json} {json : Json}
    (h : allProper test items = true) (hmem : json ∈ items) : json.isProper test = true := by
  induction items with
  | nil => cases hmem
  | cons item rest ih =>
    rw [allProper, Bool.and_eq_true] at h
    rcases List.mem_cons.1 hmem with rfl | hrest
    · exact h.1
    · exact ih h.2 hrest

theorem isProper_of_mem_members {members : Entries Json} {member : String × Json}
    (h : allMembersProper test members = true) (hmem : member ∈ members) :
    member.2.isProper test = true := by
  induction members with
  | nil => cases hmem
  | cons first rest ih =>
    rw [allMembersProper, Bool.and_eq_true] at h
    rcases List.mem_cons.1 hmem with rfl | hrest
    · exact h.1
    · exact ih h.2 hrest

theorem mem_of_find? {members : Entries Json} {name : String} {json : Json}
    (h : members.find? name = some json) : (name, json) ∈ members := by
  induction members with
  | nil => cases h
  | cons member rest ih =>
    rw [Entries.find?, List.lookup_cons] at h
    split at h
    next heq =>
      cases h
      rw [beq_iff_eq.1 heq]
      exact List.mem_cons_self
    next => exact List.mem_cons_of_mem _ (ih h)

/-- A member that is found is proper where all members are. -/
theorem isProper_of_find? {members : Entries Json} {name : String} {json : Json}
    (h : allMembersProper test members = true) (hfind : members.find? name = some json) :
    json.isProper test = true := by
  have hmem : (name, json) ∈ members := mem_of_find? hfind
  exact isProper_of_mem_members h hmem

/-- A member that must be there was read from a value under its name. -/
theorem memberOr_eq_ok {α : Type} {members : Entries Json} {name : String} {decode : Decoder α}
    {e : DecodeError} {a : α} (h : memberOr members name decode (.error e) = .ok a) :
    ∃ json, members.find? name = some json ∧ decode json = .ok a := by
  unfold memberOr at h
  split at h
  next json hfind => exact ⟨json, hfind, h⟩
  next => cases h

/-- An item that must be there was read from the value at its place. -/
theorem itemOr_eq_ok {α : Type} {items : List Json} {index : Nat} {decode : Decoder α}
    {e : DecodeError} {a : α} (h : itemOr items index decode (.error e) = .ok a) :
    ∃ json ∈ items, decode json = .ok a := by
  unfold itemOr at h
  split at h
  next json hitem => exact ⟨json, List.mem_of_getElem? hitem, h⟩
  next => cases h

/-! ## Pieces -/

theorem eq_string_of_decodeString {json : Json} {s : String} (h : decodeString json = .ok s) :
    json = .string s := by
  unfold decodeString at h
  split at h
  next =>
    cases h
    rfl
  next => cases h

/-- Only a whole number in 64 bits is read as a count. -/
theorem eq_whole_of_decodeNat64 {json : Json} {n : Nat} (h : decodeNat64 json = .ok n) :
    json = .number (.whole n) ∧ n < 0x10000000000000000 := by
  unfold decodeNat64 at h
  split at h
  next m =>
    split at h
    next hrange =>
      cases h
      rw [Int.toNat_of_nonneg hrange.1]
      exact ⟨rfl, by omega⟩
    next => cases h
  next => cases h

/-- Items are read one by one, in their order. -/
theorem forall₂_of_mapM {α : Type} {decode : Decoder α} {items : List Json} {values : List α}
    (h : items.mapM decode = .ok values) :
    List.Forall₂ (fun item value => decode item = .ok value) items values := by
  induction items generalizing values with
  | nil =>
    rw [List.mapM_nil] at h
    cases h
    exact .nil
  | cons item rest ih =>
    rw [List.mapM_cons] at h
    obtain ⟨first, hfirst, h⟩ := DecodeError.bind_eq_ok.1 h
    obtain ⟨more, hmore, h⟩ := DecodeError.bind_eq_ok.1 h
    cases h
    exact .cons hfirst (ih hmore)

/-! ## Records with parts that may be missing -/

/-- The part of a record under a name, or at a place if the record is an array. -/
def part? (name : String) (index : Nat) : Json → Option Json
  | object members => Entries.find? members name
  | array items => items[index]?
  | _ => none

/-- Whether a part of a record spells a value, or the part is missing and the value is the usual
one. -/
def HasPart {α : Type} (json : Json) (name : String) (index : Nat) (spells : Json → α → Prop)
    (usual value : α) : Prop :=
  (∃ part, json.part? name index = some part ∧ spells part value) ∨
    (json.part? name index = none ∧ value = usual)

section

variable {α : Type} {decode : Decoder α} {spells : Json → α → Prop} {usual value : α}
  (hread : ∀ {part : Json} {a : α}, decode part = .ok a → spells part a)

include hread

theorem hasPart_of_memberOr {members : Entries Json} {name : String} (index : Nat)
    (h : memberOr members name decode (.ok usual) = .ok value) :
    HasPart (.object members) name index spells usual value := by
  unfold memberOr at h
  split at h
  next part hfind => exact .inl ⟨part, hfind, hread h⟩
  next hfind =>
    cases h
    exact .inr ⟨hfind, rfl⟩

theorem hasPart_of_itemOr {items : List Json} (name : String) {index : Nat}
    (h : itemOr items index decode (.ok usual) = .ok value) :
    HasPart (.array items) name index spells usual value := by
  unfold itemOr at h
  split at h
  next part hitem => exact .inl ⟨part, hitem, hread h⟩
  next hitem =>
    cases h
    exact .inr ⟨hitem, rfl⟩

end

end Json

end SearchDomain
