/-
  SearchDomain.Proofs.Document.Answer

  What the answer to a batch has from the body of a reply, stated apart from the
  reader: a status, two counts and two lists of messages, each in its own part of
  the body or, where that is missing, empty. An answer that was read can be read
  again from what it is written as.
-/
import SearchDomain.Document.Answer
import SearchDomain.Proofs.Json.Within

namespace SearchDomain.BatchAnswer

open Json (HasPart)

/-! ## What is in a body -/

/-- Whether a value spells a text. -/
def SpellsText (json : Json) (s : String) : Prop :=
  json = .string s

/-- Whether a value spells a count in 64 bits. -/
def SpellsCount (json : Json) (n : Nat) : Prop :=
  json = .number (.whole n) ∧ n < 0x10000000000000000

/-- Whether a value spells messages: an array of records, each with a message or none. -/
def SpellsMessages (json : Json) (messages : List String) : Prop :=
  ∃ items, json = .array items ∧
    List.Forall₂ (fun item message => item.HasPart "message" 0 SpellsText "" message) items messages

/-- Whether an answer is the one that a body gives. -/
structure IsToldBy (answer : BatchAnswer) (body : Json) : Prop where
  status : body.HasPart "status" 0 SpellsText "" answer.status
  adds : body.HasPart "adds" 1 SpellsCount 0 answer.adds
  deletes : body.HasPart "deletes" 2 SpellsCount 0 answer.deletes
  errors : body.HasPart "errors" 3 SpellsMessages [] answer.errors
  warnings : body.HasPart "warnings" 4 SpellsMessages [] answer.warnings

/-! ## Reading -/

theorem hasPart_of_decodeMessage {json : Json} {message : String}
    (h : decodeMessage json = .ok message) : json.HasPart "message" 0 SpellsText "" message := by
  cases json with
  | array items =>
    simp only [decodeMessage, DecodeError.bind_eq_ok] at h
    obtain ⟨text, htext, _, -, hmessage⟩ := h
    cases hmessage
    exact Json.hasPart_of_itemOr Json.eq_string_of_decodeString "message" htext
  | object members => exact Json.hasPart_of_memberOr Json.eq_string_of_decodeString 0 h
  | null | bool | number | string => cases h

theorem spellsMessages_of_decodeList {json : Json} {messages : List String}
    (h : Json.decodeList decodeMessage json = .ok messages) : SpellsMessages json messages := by
  cases json with
  | array items =>
    refine ⟨items, rfl, (Json.forall₂_of_mapM h).imp ?_⟩
    intro item message hitem
    exact hasPart_of_decodeMessage hitem
  | null | bool | number | string | object => cases h

/-- The answer that is read from a body is the one that the body gives. -/
theorem isToldBy_of_decode {body : Json} {answer : BatchAnswer} (h : decode body = .ok answer) :
    answer.IsToldBy body := by
  cases body with
  | array items =>
    simp only [decode, DecodeError.bind_eq_ok] at h
    obtain ⟨status, hstatus, adds, hadds, deletes, hdeletes, errors, herrors, warnings, hwarnings,
      _, -, hanswer⟩ := h
    cases hanswer
    exact {
      status := Json.hasPart_of_itemOr Json.eq_string_of_decodeString _ hstatus
      adds := Json.hasPart_of_itemOr Json.eq_whole_of_decodeNat64 _ hadds
      deletes := Json.hasPart_of_itemOr Json.eq_whole_of_decodeNat64 _ hdeletes
      errors := Json.hasPart_of_itemOr spellsMessages_of_decodeList _ herrors
      warnings := Json.hasPart_of_itemOr spellsMessages_of_decodeList _ hwarnings }
  | object members =>
    simp only [decode, DecodeError.bind_eq_ok] at h
    obtain ⟨_, -, status, hstatus, adds, hadds, deletes, hdeletes, errors, herrors, warnings,
      hwarnings, hanswer⟩ := h
    cases hanswer
    exact {
      status := Json.hasPart_of_memberOr Json.eq_string_of_decodeString _ hstatus
      adds := Json.hasPart_of_memberOr Json.eq_whole_of_decodeNat64 _ hadds
      deletes := Json.hasPart_of_memberOr Json.eq_whole_of_decodeNat64 _ hdeletes
      errors := Json.hasPart_of_memberOr spellsMessages_of_decodeList _ herrors
      warnings := Json.hasPart_of_memberOr spellsMessages_of_decodeList _ hwarnings }
  | null | bool | number | string => cases h

/-! ## Writing -/

/-- A count is in 64 bits, also where it is missing. -/
theorem lt_of_hasPart {body : Json} {name : String} {index n : Nat}
    (h : body.HasPart name index SpellsCount 0 n) : n < 0x10000000000000000 := by
  rcases h with ⟨part, -, -, hlt⟩ | ⟨-, rfl⟩
  · exact hlt
  · decide

theorem isWithin_messages {levels : Nat} (messages : List String) :
    (Json.array (messages.map messageToJson)).IsWithin (levels + 2) := by
  refine Json.isWithin_array fun item hitem => ?_
  obtain ⟨message, -, rfl⟩ := List.mem_map.1 hitem
  refine Json.isWithin_object (by simp [Entries.names]) fun member hmember => ?_
  rw [List.mem_singleton.1 hmember]
  exact Json.isWithin_string message

theorem IsToldBy.isWithin_toJson {body : Json} {answer : BatchAnswer} (h : answer.IsToldBy body) :
    answer.toJson.IsWithin Json.Reader.maxDepth := by
  have hthree : answer.toJson.IsWithin 3 := by
    refine Json.isWithin_object (by simp [Entries.names]) fun member hmember => ?_
    simp only [List.mem_cons, List.not_mem_nil, or_false] at hmember
    rcases hmember with rfl | rfl | rfl | rfl | rfl
    · exact Json.isWithin_string answer.status
    · exact Json.isWithin_whole (lt_of_hasPart h.adds)
    · exact Json.isWithin_whole (lt_of_hasPart h.deletes)
    · exact isWithin_messages answer.errors
    · exact isWithin_messages answer.warnings
  exact hthree.mono (by decide)

end SearchDomain.BatchAnswer
