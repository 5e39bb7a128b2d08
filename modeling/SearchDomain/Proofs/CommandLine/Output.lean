/-
  SearchDomain.Proofs.CommandLine.Output

  What the values that are printed show, stated member by member and apart from
  the functions that make them: a page with its place, its cursor and its hits,
  and the answer to a batch with its counts and its messages. A page as it is
  printed is within reach of the reader if it has ids alone, and with fields if
  the reply that has these fields is.
-/
import SearchDomain.CommandLine.Run
import SearchDomain.Proofs.Json.Within
import SearchDomain.Proofs.Page.Place
import SearchDomain.Proofs.Page.Views

namespace SearchDomain

/-! ## What is shown -/

/-- Whether a value is a text, or null for none. -/
inductive ShowsText : Option String → Json → Prop
  | none : ShowsText none .null
  | some (s : String) : ShowsText (some s) (.string s)

/-- Whether a value lists hits: an array of the ids, or an object that has the fields of each hit
under its id. -/
inductive ShowsHits : Hits → Json → Prop
  | ids (ids : List String) : ShowsHits (.ids ids) (.array (ids.map fun id => .string id))
  | documents (documents : Entries (Entries Json)) :
      ShowsHits (.documents documents)
        (.object (documents.map fun document => (document.1, .object document.2)))

/-- Whether a value shows a page: how many matches there are, which page this is of how many, how
many hits a page has, where the next one begins, and the hits. -/
inductive ShowsPage (page : Page) : Json → Prop
  | object {cursor hits : Json} : ShowsText page.cursor cursor → ShowsHits page.hits hits →
      ShowsPage page (.object [
        ("total_entries", .number (.whole page.totalEntries)),
        ("current_page", .number (.whole page.currentPage)),
        ("total_pages", .number (.whole page.totalPages)),
        ("page_size", .number (.whole page.pageSize)),
        ("cursor", cursor),
        ("hits", hits)])

/-- Whether a value lists messages: an array of objects with one message each. -/
inductive ShowsMessages (messages : List String) : Json → Prop
  | array : ShowsMessages messages
      (.array (messages.map fun message => .object [("message", .string message)]))

/-- Whether a value shows the answer to a batch: its status, how many documents were added and
deleted, and the errors and warnings. -/
inductive ShowsAnswer (answer : BatchAnswer) : Json → Prop
  | object {errors warnings : Json} : ShowsMessages answer.errors errors →
      ShowsMessages answer.warnings warnings →
      ShowsAnswer answer (.object [
        ("status", .string answer.status),
        ("adds", .number (.whole answer.adds)),
        ("deletes", .number (.whole answer.deletes)),
        ("errors", errors),
        ("warnings", warnings)])

theorem showsText_optionalString (s : Option String) : ShowsText s (.optionalString s) := by
  cases s with
  | none => exact .none
  | some s => exact .some s

theorem showsHits_toJson (hits : Hits) : ShowsHits hits hits.toJson := by
  cases hits with
  | ids ids => exact .ids ids
  | documents documents => exact .documents documents

theorem showsPage_pageToJson (page : Page) : ShowsPage page (CommandLine.pageToJson page) :=
  .object (showsText_optionalString page.cursor) (showsHits_toJson page.hits)

theorem showsAnswer_toJson (answer : BatchAnswer) : ShowsAnswer answer answer.toJson :=
  .object .array .array

/-! ## Pages within reach -/

namespace Page

variable {body : Json} {size : UInt32} {key : Option String} {page : Page} {levels : Nat}

/-- The fields of a hit are within one level less than the hit. -/
theorem isWithin_hitFields {hit : Json} (h : hit.IsWithin (levels + 2)) (key : String) :
    (Json.object (hitFields key hit)).IsWithin (levels + 1) := by
  have hempty : (Json.object []).IsWithin (levels + 1) := ⟨rfl, Nat.le_add_left 1 levels⟩
  rw [hitFields_eq, membersUnder]
  cases hfound : [key, "fields", "data"].findSome? fun name => hit.member? name with
  | none => exact hempty
  | some value =>
    obtain ⟨name, -, hmember⟩ := List.exists_of_findSome?_eq_some hfound
    have hvalue : value.IsWithin (levels + 1) := h.of_member? hmember
    cases value with
    | object members => exact hvalue
    | null | bool | number | string | array => exact hempty

/-- The hits of an answer are within three levels less than the answer. -/
theorem isWithin_of_mem_hitsIn (h : body.IsWithin (levels + 3)) {hit : Json}
    (hmem : hit ∈ hitsIn body) : hit.IsWithin levels := by
  rw [hitsIn] at hmem
  cases hitems : ((body.member? "hits").bind (Json.member? "hit")).bind Json.asArray? with
  | none =>
    rw [hitems] at hmem
    cases hmem
  | some items =>
    obtain ⟨value, hvalue, harray⟩ := Option.bind_eq_some_iff.1 hitems
    obtain ⟨hits, hhits, hmember⟩ := Option.bind_eq_some_iff.1 hvalue
    have hwithin : value.IsWithin (levels + 1) := (h.of_member? hhits).of_member? hmember
    rw [hitems] at hmem
    cases value with
    | array found =>
      cases harray
      exact hwithin.of_mem hmem
    | null | bool | number | string | object => cases harray

/-- A list of ids is within one level, and hits with fields are within three levels less than the
answer they are read from. -/
theorem isWithin_readHits (hbody : key ≠ none → body.IsWithin (levels + 5)) :
    (readHits key (hitsIn body)).toJson.IsWithin (levels + 2) := by
  cases key with
  | none =>
    have hids : (readHits none (hitsIn body)).toJson.IsWithin 1 := by
      refine Json.isWithin_array fun item hitem => ?_
      obtain ⟨id, -, rfl⟩ := List.mem_map.1 hitem
      exact Json.isWithin_string id
    exact hids.mono (Nat.le_add_left 1 (levels + 1))
  | some key =>
    have hwithin := hbody (Option.some_ne_none key)
    refine Json.isWithin_object ?_ ?_
    · -- the ids are the names of the entries, which have each id once
      rw [Entries.names, List.map_map]
      exact Entries.nodup_names_ofPairs _
    · intro member hmember
      obtain ⟨document, hdocument, rfl⟩ := List.mem_map.1 hmember
      obtain ⟨hit, hhit, hpair⟩ := List.mem_filterMap.1 (Entries.mem_of_mem_ofPairs hdocument)
      obtain ⟨id, -, rfl⟩ := Option.map_eq_some_iff.1 hpair
      exact isWithin_hitFields (isWithin_of_mem_hitsIn hwithin hhit) key

theorem hits_of_ofResponse (h : ofResponse body size key = .ok page) :
    page.hits = readHits key (hitsIn body) := by
  rw [ofResponse_eq_map] at h
  cases hplain : ofResponse body size none with
  | error e =>
    rw [hplain] at h
    cases h
  | ok plain =>
    rw [hplain] at h
    cases h
    rfl

/-- A page that is read is within reach of the reader as it is printed, with fields if its answer
is. -/
theorem isWithin_pageToJson (h : ofResponse body size key = .ok page)
    (hbody : key ≠ none → body.IsWithin Json.Reader.maxDepth) :
    (CommandLine.pageToJson page).IsWithin Json.Reader.maxDepth := by
  obtain ⟨words, -, htell⟩ := exists_tell_of_ofResponse h
  have htotal : page.totalEntries < 0x10000000000000000 := by
    rw [← htell.totalEntries]
    exact words.totalEntries.toNat_lt
  have hnumber : page.currentPage < 0x10000000000000000 := by
    rw [← htell.currentPage]
    exact words.currentPage.toNat_lt
  have hcount : page.totalPages < 0x10000000000000000 := by
    obtain ⟨word, -, hword⟩ := htell.totalPages
    rw [← hword]
    exact word.toNat_lt
  have hsize : page.pageSize < 0x10000000000000000 := by
    have hword : words.pageSize.toNat < 0x100000000 := words.pageSize.toNat_lt
    rw [← htell.pageSize]
    omega
  -- the hits stand three levels deep in the answer, and are printed one level deep
  have hhits : page.hits.toJson.IsWithin 124 := by
    rw [hits_of_ofResponse h]
    exact isWithin_readHits hbody
  have hpage : (CommandLine.pageToJson page).IsWithin 125 := by
    refine Json.isWithin_object (by simp [Entries.names]) fun member hmember => ?_
    simp only [List.mem_cons, List.not_mem_nil, or_false] at hmember
    rcases hmember with rfl | rfl | rfl | rfl | rfl | rfl
    · exact Json.isWithin_whole htotal
    · exact Json.isWithin_whole hnumber
    · exact Json.isWithin_whole hcount
    · exact Json.isWithin_whole hsize
    · exact Json.isWithin_optionalString page.cursor
    · exact hhits
  exact hpage.mono (by decide)

end Page

end SearchDomain
