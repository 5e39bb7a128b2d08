/-
  SearchDomain.Proofs.Page.Views

  An answer can be read for the ids of its hits or for their fields as well. The
  ids alone keep every repeat. With fields a page keeps one entry for each id,
  at the place of the first hit that has it and with the fields of the last.
  Main statement: the two pages of one answer agree in all else, and each can be
  gone through by index.
-/
import Mathlib.Data.List.Induction
import SearchDomain.Proofs.Page.Words

namespace SearchDomain

/-! ## Pairs written one after another -/

namespace Entries

variable {α : Type}

theorem ofPairs_append_singleton (pairs : List (String × α)) (pair : String × α) :
    ofPairs (pairs ++ [pair]) = (ofPairs pairs).insert pair.1 pair.2 := by
  rw [ofPairs, List.foldl_append]
  rfl

/-- The names are those of the pairs, each where it stands first. -/
theorem names_ofPairs (pairs : List (String × α)) :
    (ofPairs pairs).names = (pairs.map Prod.fst).eraseDups := by
  -- by induction from the end, where the last pair is written into the entries of the others
  induction pairs using List.reverseRecOn with
  | nil => rfl
  | append_singleton pairs pair ih =>
    rw [ofPairs_append_singleton, names_insert, ih, List.map_append, List.eraseDups_append]
    by_cases hold : pair.1 ∈ pairs.map Prod.fst
    · have hrest : [pair.1].removeAll (pairs.map Prod.fst) = [] := by
        simpa [List.removeAll] using hold
      rw [if_pos (List.mem_eraseDups.2 hold), List.map_singleton, hrest, List.eraseDups_nil,
        List.append_nil]
    · have hrest : [pair.1].removeAll (pairs.map Prod.fst) = [pair.1] := by
        simpa [List.removeAll] using hold
      rw [if_neg (fun h => hold (List.mem_eraseDups.1 h)), List.map_singleton, hrest,
        List.eraseDups_cons, List.filter_nil, List.eraseDups_nil]

theorem nodup_names_ofPairs (pairs : List (String × α)) : (ofPairs pairs).names.Nodup := by
  induction pairs using List.reverseRecOn with
  | nil => exact List.nodup_nil
  | append_singleton pairs pair ih =>
    rw [ofPairs_append_singleton, names_insert]
    by_cases hold : pair.1 ∈ (ofPairs pairs).names
    · rw [if_pos hold]
      exact ih
    · rw [if_neg hold, List.nodup_append]
      refine ⟨ih, List.pairwise_singleton _ _, ?_⟩
      intro name hname other hother
      rintro rfl
      rw [List.mem_singleton.1 hother] at hname
      exact hold hname

/-- An entry is the new one or one of before. -/
theorem mem_of_mem_insert {entries : Entries α} {name : String} {value : α} {entry : String × α}
    (h : entry ∈ entries.insert name value) : entry = (name, value) ∨ entry ∈ entries := by
  induction entries with
  | nil => exact .inl (List.mem_singleton.1 h)
  | cons first rest ih =>
    rw [insert] at h
    split at h
    · rcases List.mem_cons.1 h with hnew | hrest
      · exact .inl hnew
      · exact .inr (List.mem_cons_of_mem _ hrest)
    · rcases List.mem_cons.1 h with hfirst | hrest
      · exact .inr (hfirst ▸ List.mem_cons_self)
      · exact (ih hrest).imp_right (List.mem_cons_of_mem _)

/-- Nothing is written but the pairs. -/
theorem mem_of_mem_ofPairs {pairs : List (String × α)} {entry : String × α}
    (h : entry ∈ ofPairs pairs) : entry ∈ pairs := by
  induction pairs using List.reverseRecOn with
  | nil => exact h
  | append_singleton pairs pair ih =>
    rw [ofPairs_append_singleton] at h
    rcases mem_of_mem_insert h with hnew | hold
    · exact List.mem_append_right _ (List.mem_singleton.2 hnew)
    · exact List.mem_append_left _ (ih hold)

/-- Under a name is what the last pair with that name has. -/
theorem find?_ofPairs (pairs : List (String × α)) (name : String) :
    (ofPairs pairs).find? name =
      ((pairs.filter fun pair => pair.1 = name).getLast?).map Prod.snd := by
  induction pairs using List.reverseRecOn with
  | nil => rfl
  | append_singleton pairs pair ih =>
    rw [ofPairs_append_singleton, find?_insert, ih, List.filter_append]
    by_cases hname : name = pair.1
    · have hlast : [pair].filter (fun pair => pair.1 = name) = [pair] := by simp [hname]
      rw [if_pos hname, hlast, List.getLast?_concat, Option.map_some]
    · have hlast : [pair].filter (fun pair => pair.1 = name) = [] := by simpa using Ne.symm hname
      rw [if_neg hname, hlast, List.append_nil]

end Entries

namespace Page

/-! ## Hits -/

/-- Whether a hit has an id: a text, or the text of a number. -/
inductive HasId (hit : Json) : String → Prop
  | text {id : String} (h : hit.member? "id" = some (.string id)) : HasId hit id
  | number {n : JsonNumber} (h : hit.member? "id" = some (.number n)) : HasId hit n.text

theorem idOfHit?_eq_some_iff {hit : Json} {id : String} :
    idOfHit? hit = some id ↔ HasId hit id := by
  constructor
  · intro h
    unfold idOfHit? at h
    split at h
    next s hmember =>
      rw [Option.some.injEq] at h
      rw [← h]
      exact .text hmember
    next n hmember =>
      rw [Option.some.injEq] at h
      rw [← h]
      exact .number hmember
    next => cases h
  · rintro (h | h)
    · rw [idOfHit?, h]
    · rw [idOfHit?, h]

/-- The ids of hits in order; what has none is left out. -/
inductive IdsOf : List Json → List String → Prop
  | nil : IdsOf [] []
  | named {hit : Json} {id : String} {hits : List Json} {ids : List String} (h : HasId hit id)
    (hrest : IdsOf hits ids) : IdsOf (hit :: hits) (id :: ids)
  | nameless {hit : Json} {hits : List Json} {ids : List String} (h : ∀ id, ¬HasId hit id)
    (hrest : IdsOf hits ids) : IdsOf (hit :: hits) ids

theorem idsOf_filterMap (hits : List Json) : IdsOf hits (hits.filterMap idOfHit?) := by
  induction hits with
  | nil => exact .nil
  | cons hit hits ih =>
    cases hid : idOfHit? hit with
    | none =>
      rw [List.filterMap_cons_none hid]
      refine .nameless (fun id h => ?_) ih
      rw [← idOfHit?_eq_some_iff, hid] at h
      cases h
    | some id =>
      rw [List.filterMap_cons_some hid]
      exact .named (idOfHit?_eq_some_iff.1 hid) ih

/-- The members of a hit under the first of some names that it has; what is no object has none. -/
def membersUnder (names : List String) (hit : Json) : Entries Json :=
  ((names.findSome? fun name => hit.member? name).bind Json.asObject?).getD []

theorem hitFields_eq (key : String) (hit : Json) :
    hitFields key hit = membersUnder [key, "fields", "data"] hit := by
  have hfirst : ((hit.member? key).orElse fun _ =>
      (hit.member? "fields").orElse fun _ => hit.member? "data") =
      [key, "fields", "data"].findSome? fun name => hit.member? name := by
    simp only [List.findSome?_cons, List.findSome?_nil]
    cases hit.member? key <;> cases hit.member? "fields" <;> cases hit.member? "data" <;> rfl
  rw [hitFields, membersUnder, hfirst]

/-- Whether a hit is the last among some with an id. -/
def IsLastWith (id : String) (hits : List Json) (hit : Json) : Prop :=
  ∃ before after, hits = before ++ hit :: after ∧ HasId hit id ∧ ∀ later ∈ after, ¬HasId later id

theorem getLast?_filter_eq_some_iff {id : String} {hits : List Json} {hit : Json} :
    (hits.filter fun hit => idOfHit? hit = some id).getLast? = some hit ↔
      IsLastWith id hits hit := by
  -- the last of some hits is the first of them from the other end
  rw [List.getLast?_filter, List.find?_eq_some_iff_append, decide_eq_true_eq,
    idOfHit?_eq_some_iff]
  constructor
  · rintro ⟨hid, after, before, hreverse, hafter⟩
    refine ⟨before.reverse, after.reverse, ?_, hid, fun later hlater h => ?_⟩
    · rw [← hits.reverse_reverse, hreverse]
      simp
    · have hother := hafter later (List.mem_reverse.1 hlater)
      rw [Bool.not_eq_true', decide_eq_false_iff_not, idOfHit?_eq_some_iff] at hother
      exact hother h
  · rintro ⟨before, after, rfl, hid, hafter⟩
    refine ⟨hid, after.reverse, before.reverse, by simp, fun later hlater => ?_⟩
    rw [Bool.not_eq_true', decide_eq_false_iff_not, idOfHit?_eq_some_iff]
    exact hafter later (List.mem_reverse.1 hlater)

/-! ## Hits that are read -/

/-- The hits of an answer. -/
def hitsIn (body : Json) : List Json :=
  (((body.member? "hits").bind (Json.member? "hit")).bind Json.asArray?).getD []

/-- What is read for the fields is a pair for each hit that has an id. -/
def idAndFields? (key : String) (hit : Json) : Option (String × Entries Json) :=
  (idOfHit? hit).map fun id => (id, hitFields key hit)

theorem filter_filterMap_idAndFields? (key id : String) (hits : List Json) :
    (hits.filterMap (idAndFields? key)).filter (fun pair => pair.1 = id) =
      (hits.filter fun hit => idOfHit? hit = some id).map fun hit => (id, hitFields key hit) := by
  induction hits with
  | nil => rfl
  | cons hit hits ih =>
    rw [List.filterMap_cons, List.filter_cons, idAndFields?]
    cases idOfHit? hit with
    | none => simpa using ih
    | some other =>
      by_cases h : other = id
      · simp [h, ih]
      · simp [h, ih]

theorem names_readHits (key : String) (hits : List Json) :
    (readHits (some key) hits).toIds = (hits.filterMap idOfHit?).eraseDups := by
  have hnames : (hits.filterMap (idAndFields? key)).map Prod.fst = hits.filterMap idOfHit? := by
    simp [List.map_filterMap, idAndFields?, Function.comp_def]
  rw [← hnames, ← Entries.names_ofPairs]
  rfl

theorem find?_readHits (key id : String) (hits : List Json) :
    (Entries.ofPairs (hits.filterMap (idAndFields? key))).find? id =
      ((hits.filter fun hit => idOfHit? hit = some id).getLast?).map
        (membersUnder [key, "fields", "data"]) := by
  rw [Entries.find?_ofPairs, filter_filterMap_idAndFields?, List.getLast?_map, Option.map_map]
  congr 1
  funext hit
  exact hitFields_eq key hit

/-! ## Pages -/

/-- Whether the ids of a page are there at the indices below its length, and at no others, and are
gone through in the order of the indices. -/
structure IsIndexed (page : Page) : Prop where
  isSome_get? : ∀ index, (page.get? index).isSome ↔ index < page.length
  ids : page.ids.map some = (List.range page.length).map page.get?

theorem isIndexed (page : Page) : page.IsIndexed where
  isSome_get? := fun index => by
    simp [get?, length]
  ids := by
    refine List.ext_getElem ?_ fun index hindex hindex' => ?_
    · rw [List.length_map, List.length_map, List.length_range, length]
    · rw [List.length_map] at hindex
      simp [get?, hindex]

/-- Whether a page of ids and a page with fields show the same hits. -/
structure ViewsAgree (key : String) (hits : List Json) (plain full : Page) : Prop where
  idsOf : IdsOf hits plain.ids
  ids : full.ids = plain.ids.eraseDups
  isSome_document? : ∀ id, (full.document? id).isSome ↔ id ∈ plain.ids
  document? : ∀ id fields, full.document? id = some fields ↔
    ∃ hit, IsLastWith id hits hit ∧ fields = membersUnder [key, "fields", "data"] hit
  totalEntries : full.totalEntries = plain.totalEntries
  pageSize : full.pageSize = plain.pageSize
  currentPage : full.currentPage = plain.currentPage
  totalPages : full.totalPages = plain.totalPages
  offset : full.offset = plain.offset
  previousPage : full.previousPage = plain.previousPage
  nextPage : full.nextPage = plain.nextPage
  cursor : full.cursor = plain.cursor
  indexed_plain : plain.IsIndexed
  indexed_full : full.IsIndexed

/-- The page with fields of a page of ids. -/
def withFields (page : Page) (key : String) (hits : List Json) : Page :=
  { page with hits := readHits (some key) hits }

theorem viewsAgree_withFields {page : Page} {hits : List Json}
    (hpage : page.hits = readHits none hits) (key : String) :
    ViewsAgree key hits page (page.withFields key hits) := by
  have hids : page.ids = hits.filterMap idOfHit? := by
    rw [Page.ids, hpage]
    rfl
  have hdocument : ∀ id, (page.withFields key hits).document? id =
      ((hits.filter fun hit => idOfHit? hit = some id).getLast?).map
        (membersUnder [key, "fields", "data"]) :=
    fun id => find?_readHits key id hits
  refine ⟨?_, ?_, ?_, ?_, rfl, rfl, rfl, rfl, rfl, rfl, rfl, rfl, isIndexed _, isIndexed _⟩
  · rw [hids]
    exact idsOf_filterMap hits
  · rw [hids]
    exact names_readHits key hits
  · intro id
    rw [hdocument, Option.isSome_map, List.getLast?_isSome, hids, List.mem_filterMap]
    simp [List.filter_eq_nil_iff]
  · intro id fields
    rw [hdocument, Option.map_eq_some_iff]
    simp only [getLast?_filter_eq_some_iff, eq_comm (a := fields)]

/-! ## Answers -/

/-- What is read from an answer beside its hits does not depend on how these are read. -/
theorem ofResponse_eq_map (body : Json) (size : UInt32) (key : Option String) :
    ofResponse body size key = (ofResponse body size none).map fun page =>
      { page with hits := readHits key (hitsIn body) } := by
  unfold ofResponse
  cases hhits : body.member? "hits" with
  | none => rfl
  | some value =>
    cases value with
    | object members =>
      have hentries : hitsIn body = (((Json.object members).member? "hit").bind
          Json.asArray?).getD [] := by
        rw [hitsIn, hhits, Option.bind_some]
      rw [hentries]
      simp only [Option.bind_some, Json.asObject?]
      split <;> rfl
    | null | bool | number | string | array => rfl

/-- The same answer read for the ids alone and for the fields too: both are pages that agree, or
both page numbers overflow, because the answer begins at the last word while a page has one hit. -/
theorem views_agree {body : Json} (hbody : body.HasHits) (size : UInt32) (key : String) :
    (¬(size.toNat ≤ 1 ∧ countIn "start" body = some 0xFFFFFFFFFFFFFFFF) ∧
      ∃ plain full, ofResponse body size none = .ok plain ∧
        ofResponse body size (some key) = .ok full ∧
        ViewsAgree key (hitsIn body) plain full) ∨
    ((size.toNat ≤ 1 ∧ countIn "start" body = some 0xFFFFFFFFFFFFFFFF) ∧
      ofResponse body size none = .error .pageOverflow ∧
      ofResponse body size (some key) = .error .pageOverflow) := by
  rcases ofResponse_trichotomy body size none with
    ⟨hnot, -⟩ | ⟨-, hlast, hover⟩ | ⟨-, hlast, plain, hplain⟩
  · exact absurd hbody hnot
  · refine .inr ⟨hlast, hover, ?_⟩
    rw [ofResponse_eq_map, hover]
    rfl
  · -- a page of ids is its own page with the hits of the answer put in
    have hhits := ofResponse_eq_map body size none
    rw [hplain, Except.map, Except.ok.injEq] at hhits
    refine .inl ⟨hlast, plain, plain.withFields key (hitsIn body), hplain, ?_,
      viewsAgree_withFields (congrArg Page.hits hhits) key⟩
    rw [ofResponse_eq_map, hplain]
    rfl

/-- The body of an answer that begins at a number, with some hits. -/
def answerWith (start : Json) (hits : List Json) : Json :=
  .object [("hits", .object [("found", .whole hits.length), ("start", start),
    ("hit", .array hits)])]

/-- Hits of which the first and the last have one id, and the third has none. -/
def repeatedHits : List Json :=
  [.object [("id", .string "1"), ("fields", .null)], .object [("id", .string "2")],
    .object [("id", .bool true)],
    .object [("id", .whole 1), ("fields", .object [("v", .string "last")])]]

/-- A text and a number with the same text are one id, which keeps the place of the first and the
fields of the last; what is no id is in neither view. -/
theorem views_agree_of_repeatedHits :
    (answerWith (.whole 0) repeatedHits).HasHits ∧
    ∃ plain full, ofResponse (answerWith (.whole 0) repeatedHits) 10 none = .ok plain ∧
      ofResponse (answerWith (.whole 0) repeatedHits) 10 (some "data") = .ok full ∧
      plain.ids = ["1", "2", "1"] ∧ full.ids = ["1", "2"] ∧
      full.document? "1" = some [("v", .string "last")] := by
  have hbody : (answerWith (.whole 0) repeatedHits).HasHits := ⟨_, _, rfl, rfl⟩
  refine ⟨hbody, ?_⟩
  rcases views_agree hbody 10 "data" with
    ⟨-, plain, full, hplain, hfull, hagree⟩ | ⟨⟨hsize, -⟩, -⟩
  · have hplainIds : plain.ids = ["1", "2", "1"] := by
      cases hplain
      rfl
    have hlast : IsLastWith "1" repeatedHits
        (.object [("id", .whole 1), ("fields", .object [("v", .string "last")])]) :=
      ⟨repeatedHits.take 3, [], rfl, idOfHit?_eq_some_iff.1 rfl, nofun⟩
    refine ⟨plain, full, hplain, hfull, hplainIds, ?_, (hagree.document? _ _).2 ⟨_, hlast, rfl⟩⟩
    rw [hagree.ids, hplainIds]
    rfl
  · exact absurd hsize (by decide)

/-- At the last start with one hit on a page there are no pages that could agree. -/
theorem views_overflow_at_last :
    (answerWith (.whole 0xFFFFFFFFFFFFFFFF) repeatedHits).HasHits ∧
    ¬∃ plain full,
      ofResponse (answerWith (.whole 0xFFFFFFFFFFFFFFFF) repeatedHits) 1 none = .ok plain ∧
      ofResponse (answerWith (.whole 0xFFFFFFFFFFFFFFFF) repeatedHits) 1 (some "fields") =
        .ok full ∧
      ViewsAgree "fields" (hitsIn (answerWith (.whole 0xFFFFFFFFFFFFFFFF) repeatedHits))
        plain full := by
  refine ⟨⟨_, _, rfl, rfl⟩, ?_⟩
  rintro ⟨plain, -, hplain, -⟩
  cases hplain

end Page

end SearchDomain
