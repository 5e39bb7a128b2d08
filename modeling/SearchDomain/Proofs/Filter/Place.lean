/-
  SearchDomain.Proofs.Filter.Place

  One part of a filter or of a document in its place. The text of a filter among
  siblings depends on a part only through the text of that part, wherever in the
  filter it stands, and the value of a condition stands behind a colon in it; and a
  document is read as a filter in which each place holds what the members in the
  same place of the document describe.

  A whole filter is set apart from its siblings by trimming, which takes the white
  space of a field along with the space in front of it; a condition on its own is
  not trimmed. So two filters with the same text among siblings compile to the
  same text exactly when both or none of them begins with white space.
-/
import Mathlib.Data.List.DropRight
import SearchDomain.Proofs.Filter.Grammar
import SearchDomain.Proofs.Filter.Silent

namespace SearchDomain

open Text (isBlank trimStart)

/-! ## Places -/

/-- A place among items, or behind an operator that is one of them, at any depth. -/
inductive Place (α : Type) where
  | among (before after : List α)
  | behind (before after : List α) (op : Connective) (inner : Place α)

/-- The items around a place and those in it, where an operator over items is an item. -/
def Place.fill {α : Type} (node : Connective → List α → α) : Place α → List α → List α
  | among before after, items => before ++ (items ++ after)
  | behind before after op inner, items => before ++ node op (inner.fill node items) :: after

/-- The members of a document with some in a place. -/
def Place.fillMembers (place : Place (String × Json)) (members : List (String × Json)) :
    List (String × Json) :=
  place.fill (fun op inner => (op.keyword, .object inner)) members

/-- Filters with some in a place. -/
def Place.fillFilters (place : Place Filter) (filters : List Filter) : List Filter :=
  place.fill Filter.logic filters

namespace Filter

/-- Filters in a place count among their siblings for their text only. -/
theorem renderSiblings_fillFilters_congr {filters others : List Filter}
    (h : renderSiblings filters = renderSiblings others) (place : Place Filter) :
    renderSiblings (place.fillFilters filters) = renderSiblings (place.fillFilters others) := by
  induction place with
  | among before after =>
    show renderSiblings (before ++ (filters ++ after)) =
      renderSiblings (before ++ (others ++ after))
    simp only [renderSiblings_append, h]
  | behind before after op inner ih =>
    show renderSiblings (before ++ logic op (inner.fillFilters filters) :: after) =
      renderSiblings (before ++ logic op (inner.fillFilters others) :: after)
    simp only [renderSiblings_append, renderSiblings, renderSibling, ih]

/-- A filter that is left alone in a place is the whole, or there is an operator around it. -/
theorem fillFilters_singleton_cases {place : Place Filter} {part filter : Filter}
    (h : place.fillFilters [part] = [filter]) :
    place = .among [] [] ∧ filter = part ∨
      place ≠ .among [] [] ∧ ∃ op children, filter = logic op children := by
  cases place with
  | among before after =>
    have hlengths := congrArg List.length h
    simp only [Place.fillFilters, Place.fill, List.length_append, List.length_cons,
      List.length_nil] at hlengths
    obtain rfl : before = [] := List.length_eq_zero_iff.1 (by omega)
    obtain rfl : after = [] := List.length_eq_zero_iff.1 (by omega)
    exact .inl ⟨rfl, (List.singleton_inj.1 h).symm⟩
  | behind before after op inner =>
    have hlengths := congrArg List.length h
    simp only [Place.fillFilters, Place.fill, List.length_append, List.length_cons,
      List.length_nil] at hlengths
    obtain rfl : before = [] := List.length_eq_zero_iff.1 (by omega)
    obtain rfl : after = [] := List.length_eq_zero_iff.1 (by omega)
    exact .inr ⟨nofun, op, _, (List.singleton_inj.1 h).symm⟩

/-! ## White space in front -/

/-- Whether a filter is a condition that says something, on a field that begins with white
space. -/
inductive BeginsBlank : Filter → Prop
  | condition {field : String} {value : FilterValue} {c : Char} (hvalue : ¬value.SaysNothing)
    (hfield : field.toList.head? = some c) (hc : isBlank c = true) :
    BeginsBlank (condition field value)

theorem beginsBlank_condition_congr {field : String} {value value' : FilterValue}
    (h : value.render = value'.render) :
    (condition field value).BeginsBlank ↔ (condition field value').BeginsBlank := by
  have hsilent : value.SaysNothing ↔ value'.SaysNothing := by
    rw [← FilterValue.isEmpty_iff, ← FilterValue.isEmpty_iff, ← FilterValue.render_eq_none_iff,
      ← FilterValue.render_eq_none_iff, h]
  constructor
  · rintro ⟨hvalue, hfield, hc⟩
    exact .condition (fun h => hvalue (hsilent.2 h)) hfield hc
  · rintro ⟨hvalue, hfield, hc⟩
    exact .condition (fun h => hvalue (hsilent.1 h)) hfield hc

theorem trimStart_eq_self_iff {s : String} :
    trimStart s = s ↔ ∀ c, s.toList.head? = some c → isBlank c = false := by
  rw [← String.toList_inj, Text.toList_trimStart]
  cases s.toList with
  | nil => simp
  | cons c cs => simp [List.dropWhile_eq_self_iff]

theorem trimStart_trimStart (s : String) : trimStart (trimStart s) = trimStart s := by
  rw [← String.toList_inj, Text.toList_trimStart, Text.toList_trimStart, List.dropWhile_idempotent]

/-- A node is set off by its parenthesis, so trimming leaves its text as it is. -/
theorem trimStart_compile_logic (op : Connective) (children : List Filter) :
    trimStart (logic op children).compile = (logic op children).compile := by
  rw [trimStart_eq_self_iff, compile, renderSibling]
  split
  · intro c hc
    cases hc
  · intro c hc
    simp only [String.toList_append, List.append_assoc] at hc
    cases hc
    decide

/-- A whole filter has the text that it has among siblings, up to white space in front. -/
theorem trimStart_compile (filter : Filter) :
    trimStart filter.compile = trimStart filter.renderSibling := by
  cases filter with
  | logic op children => rw [compile]
  | condition field value =>
    rw [compile, renderSibling]
    cases conditionText field value with
    | none => rfl
    | some text =>
      have hspace : " ".toList = [' '] := rfl
      dsimp only [Option.getD_some]
      rw [← String.toList_inj, Text.toList_trimStart, Text.toList_trimStart, String.toList_append,
        hspace, List.singleton_append, List.dropWhile_cons_of_pos (by decide)]
  | sequence members => rw [compile, trimStart_trimStart, renderSibling]

/-- The text of a condition that says something begins with the field, or with the colon behind
it. -/
theorem compile_condition_cases (field : String) (value : FilterValue) :
    value.SaysNothing ∧ (condition field value).compile = "" ∨
      ¬value.SaysNothing ∧
        (condition field value).renderSibling = " " ++ (condition field value).compile ∧
        (condition field value).compile.toList.head? = some (field.toList.head?.getD ':') := by
  rw [compile, renderSibling, ← FilterValue.isEmpty_iff, ← FilterValue.printed?_eq_none_iff]
  obtain ⟨hprinted, hnone⟩ | ⟨printed, text, hprinted, htext, hchars⟩ :=
    conditionText_cases field value
  · rw [hnone]
    exact .inl ⟨hprinted, rfl⟩
  · refine .inr ⟨by rw [hprinted]; exact Option.some_ne_none printed, ?_, ?_⟩
    · rw [htext, Option.getD_some]
    · rw [htext, Option.getD_some, hchars, List.head?_append]
      cases field.toList.head? with
      | none => rfl
      | some c => rfl

/-- Trimming changes the text of a whole filter exactly if it is a condition that begins with white
space. -/
theorem trimStart_compile_eq_self_iff {filter : Filter} :
    trimStart filter.compile = filter.compile ↔ ¬filter.BeginsBlank := by
  cases filter with
  | logic op children => exact ⟨fun _ => nofun, fun _ => trimStart_compile_logic op children⟩
  | sequence members =>
    refine ⟨fun _ => nofun, fun _ => ?_⟩
    rw [compile, trimStart_trimStart]
  | condition field value =>
    obtain ⟨hsilent, hempty⟩ | ⟨hvalue, -, hhead⟩ := compile_condition_cases field value
    · rw [hempty]
      refine ⟨fun _ hbegins => ?_, fun _ => rfl⟩
      cases hbegins with
      | condition hvalue _ _ => exact hvalue hsilent
    · rw [trimStart_eq_self_iff, hhead]
      constructor
      · intro h hbegins
        cases hbegins with
        | condition _ hfield hc =>
          rw [hfield, Option.getD_some] at h
          rw [h _ rfl] at hc
          cases hc
      · rintro h c ⟨rfl⟩
        -- a colon is no white space, so a blank in front is the field's
        cases hfield : field.toList.head? with
        | none => decide
        | some c =>
          rw [Option.getD_some, ← Bool.not_eq_true]
          exact fun hc => h (.condition hvalue hfield hc)

theorem renderSibling_of_beginsBlank {filter : Filter} (h : filter.BeginsBlank) :
    filter.renderSibling = " " ++ filter.compile := by
  obtain ⟨hvalue, _, _⟩ := h
  rcases compile_condition_cases _ _ with ⟨hsilent, -⟩ | ⟨-, hrender, -⟩
  · exact absurd hsilent hvalue
  · exact hrender

/-- Filters with the same text among siblings compile to the same text up to white space in front,
and to the same text exactly when both or none of them begins with white space. -/
theorem compile_of_renderSibling_eq {filter other : Filter}
    (h : filter.renderSibling = other.renderSibling) :
    trimStart filter.compile = trimStart other.compile ∧
      (filter.compile = other.compile ↔ (filter.BeginsBlank ↔ other.BeginsBlank)) := by
  have htrimmed : trimStart filter.compile = trimStart other.compile := by
    rw [trimStart_compile, trimStart_compile, h]
  refine ⟨htrimmed, fun heq => ?_, fun hbegins => ?_⟩
  · rw [← not_iff_not, ← trimStart_compile_eq_self_iff, ← trimStart_compile_eq_self_iff, heq]
  · by_cases hblank : filter.BeginsBlank
    · -- a space sets off either of the conditions
      rw [renderSibling_of_beginsBlank hblank,
        renderSibling_of_beginsBlank (hbegins.1 hblank)] at h
      exact (String.append_right_inj " ").1 h
    · rw [← trimStart_compile_eq_self_iff.2 hblank, htrimmed,
        trimStart_compile_eq_self_iff.2 fun hother => hblank (hbegins.2 hother)]

/-! ## Documents -/

theorem MembersDescribe.append {members more : List (String × Json)} {filters others : List Filter}
    (h : MembersDescribe members filters) (hmore : MembersDescribe more others) :
    MembersDescribe (members ++ more) (filters ++ others) := by
  induction members generalizing filters with
  | nil =>
    cases h
    exact hmore
  | cons member members ih =>
    cases h with
    | cons hmember hrest => exact .cons hmember (ih hrest)

theorem MembersDescribe.exists_of_append {members more : List (String × Json)}
    {filters : List Filter} (h : MembersDescribe (members ++ more) filters) :
    ∃ front back, MembersDescribe members front ∧ MembersDescribe more back ∧
      filters = front ++ back := by
  induction members generalizing filters with
  | nil => exact ⟨[], filters, .nil, h, rfl⟩
  | cons member members ih =>
    cases h with
    | cons hmember hrest =>
      obtain ⟨front, back, hfront, hback, rfl⟩ := ih hrest
      exact ⟨_ :: front, back, .cons hmember hfront, hback, rfl⟩

/-- A member with an object for its value describes a node over what the object describes. -/
theorem MemberDescribes.exists_of_object {name : String} {inner : List (String × Json)}
    {filter : Filter} (h : MemberDescribes name (.object inner) filter) :
    ∃ op children, name = op.keyword ∧ filter = logic op children ∧
      MembersDescribe inner children := by
  cases h with
  | node hinner => exact ⟨_, _, rfl, rfl, hinner⟩
  | condition hvalue => cases hvalue

/-- What members around a place describe has a place for what the members in it describe. -/
theorem MembersDescribe.exists_place {place : Place (String × Json)}
    {members : List (String × Json)} {filters : List Filter}
    (h : MembersDescribe (place.fillMembers members) filters) :
    ∃ place' inner, filters = Place.fillFilters place' inner ∧ MembersDescribe members inner ∧
      ∀ members' inner', MembersDescribe members' inner' →
        MembersDescribe (place.fillMembers members') (place'.fillFilters inner') := by
  induction place generalizing filters with
  | among before after =>
    obtain ⟨front, rest, hfront, hrest, rfl⟩ := h.exists_of_append
    obtain ⟨inner, back, hinner, hback, rfl⟩ := hrest.exists_of_append
    exact ⟨.among front back, inner, rfl, hinner,
      fun members' inner' hinner' => hfront.append (hinner'.append hback)⟩
  | behind before after op place ih =>
    obtain ⟨front, rest, hfront, hrest, rfl⟩ := h.exists_of_append
    cases hrest with
    | cons hnode hback =>
      obtain ⟨op', children, hname, rfl, hchildren⟩ := hnode.exists_of_object
      obtain ⟨place', inner, rfl, hinner, hfill⟩ := ih hchildren
      refine ⟨.behind front _ op' place', inner, rfl, hinner, fun members' inner' hinner' => ?_⟩
      refine hfront.append (.cons ?_ hback)
      rw [hname]
      exact .node (hfill members' inner' hinner')

/-- Whether a filter is what the filters of the members of a document are joined to: the only one
of them, or else their sequence. -/
def IsJoined (filters : List Filter) (filter : Filter) : Prop :=
  filters = [filter] ∨ filters.length ≠ 1 ∧ filter = sequence filters

theorem exists_ofJson_of_membersDescribe {members : List (String × Json)} {filters : List Filter}
    (h : MembersDescribe members filters) :
    ∃ filter, ofJson (.object members) = .ok filter ∧ IsJoined filters filter := by
  rw [ofJson, ofMembers_of_membersDescribe h]
  rcases filters with _ | ⟨filter, _ | ⟨second, more⟩⟩
  · exact ⟨_, rfl, .inr ⟨by decide, rfl⟩⟩
  · exact ⟨filter, rfl, .inl rfl⟩
  · exact ⟨_, rfl, .inr ⟨by simp, rfl⟩⟩

theorem IsJoined.renderSibling_eq {filters : List Filter} {filter : Filter}
    (h : IsJoined filters filter) : filter.renderSibling = renderSiblings filters := by
  rcases h with rfl | ⟨-, rfl⟩
  · rw [renderSiblings, renderSiblings, String.append_empty]
  · rw [renderSibling]

/-- A filter with one part in a place begins with white space only if it is that part. -/
theorem IsJoined.beginsBlank_iff {place : Place Filter} {part filter : Filter}
    (h : IsJoined (place.fillFilters [part]) filter) :
    filter.BeginsBlank ↔ place = .among [] [] ∧ part.BeginsBlank := by
  rcases h with h | ⟨hlength, rfl⟩
  · obtain ⟨rfl, rfl⟩ | ⟨hplace, op, children, rfl⟩ := fillFilters_singleton_cases h
    · exact (and_iff_right rfl).symm
    · exact iff_of_false nofun fun hpart => hplace hpart.1
  · refine iff_of_false nofun ?_
    rintro ⟨rfl, -⟩
    exact hlength rfl

/-- A document that is read is read with other members in the same place too, if these describe
filters, and the two filters differ in one place only. -/
theorem exists_ofJson_fillMembers {place : Place (String × Json)} {members : List (String × Json)}
    {filter : Filter} (h : ofJson (.object (place.fillMembers members)) = .ok filter) :
    ∃ place' inner, MembersDescribe members inner ∧
      IsJoined (Place.fillFilters place' inner) filter ∧
      ∀ members' inner', MembersDescribe members' inner' →
        ∃ filter', ofJson (.object (place.fillMembers members')) = .ok filter' ∧
          IsJoined (place'.fillFilters inner') filter' := by
  rcases ofMembers_cases (place.fillMembers members) with
    ⟨filters, -, hfilters, -⟩ | ⟨offender, -, hread⟩
  · obtain ⟨found, hfound, hjoined⟩ := exists_ofJson_of_membersDescribe hfilters
    obtain rfl : found = filter := Except.ok.inj (hfound.symm.trans h)
    obtain ⟨place', inner, rfl, hinner, hfill⟩ := hfilters.exists_place
    exact ⟨place', inner, hinner, hjoined, fun members' inner' hinner' =>
      exists_ofJson_of_membersDescribe (hfill members' inner' hinner')⟩
  · rw [ofJson, hread] at h
    cases h

/-! ## Conditions in their place -/

/-- Around a part with a text there is more text or none, but no other text in its place. -/
theorem exists_renderSiblings_fillFilters (place : Place Filter) {part : Filter}
    (hpart : part.renderSibling ≠ "") :
    ∃ front back, renderSiblings (place.fillFilters [part]) =
      front ++ part.renderSibling ++ back := by
  induction place with
  | among before after =>
    refine ⟨renderSiblings before, renderSiblings after, ?_⟩
    show renderSiblings (before ++ ([part] ++ after)) = _
    rw [renderSiblings_append, renderSiblings_append, renderSiblings, renderSiblings,
      String.append_empty, String.append_assoc]
  | behind before after op inner ih =>
    obtain ⟨front, back, hinner⟩ := ih
    have hnonempty : renderSiblings (inner.fillFilters [part]) ≠ "" := by
      rw [hinner]
      intro hempty
      rw [String.append_eq_empty_iff, String.append_eq_empty_iff] at hempty
      exact hpart hempty.1.2
    refine ⟨renderSiblings before ++ "(" ++ op.keyword ++ front,
      back ++ ")" ++ renderSiblings after, ?_⟩
    show renderSiblings (before ++ logic op (inner.fillFilters [part]) :: after) = _
    rw [renderSiblings_append, renderSiblings, renderSibling, if_neg hnonempty, hinner]
    simp only [String.append_assoc]

/-- Trimming stops in front of the first character that is no white space. -/
theorem exists_trimStart_append {mark : Char} {rest : String}
    (hrest : rest.toList.head? = some mark) (hmark : isBlank mark = false) (front : String) :
    ∃ front', trimStart (front ++ rest) = front' ++ rest := by
  obtain ⟨cs, hcs⟩ : ∃ cs, rest.toList = mark :: cs := by
    cases hchars : rest.toList with
    | nil =>
      rw [hchars] at hrest
      cases hrest
    | cons c cs =>
      rw [hchars] at hrest
      cases hrest
      exact ⟨cs, rfl⟩
  refine ⟨String.ofList (front.toList.dropWhile isBlank), ?_⟩
  rw [← String.toList_inj, Text.toList_trimStart, String.toList_append, String.toList_append,
    String.toList_ofList, hcs, List.dropWhile_append]
  split
  next hempty =>
    rw [List.isEmpty_iff.1 hempty, List.dropWhile_cons_of_neg (by rw [hmark]; decide),
      List.nil_append]
  next => rfl

/-- Wherever a condition that says something stands, its value stands behind a colon in what is
compiled. -/
theorem IsJoined.exists_compile {place : Place Filter} {field text : String} {value : FilterValue}
    {filter : Filter} (h : IsJoined (place.fillFilters [condition field value]) filter)
    (hvalue : value.render = some text) :
    ∃ front back, filter.compile = front ++ (":" ++ text) ++ back := by
  have hpart : (condition field value).renderSibling = " " ++ (field ++ ":" ++ text) := by
    rw [renderSibling, conditionText, hvalue]
    rfl
  have hnonempty : (condition field value).renderSibling ≠ "" := by
    rw [hpart]
    intro hempty
    exact absurd (String.append_eq_empty_iff.1 hempty).1 (by decide)
  obtain ⟨front, back, hsiblings⟩ := exists_renderSiblings_fillFilters place hnonempty
  have hrender : filter.renderSibling = front ++ " " ++ field ++ (":" ++ text ++ back) := by
    rw [h.renderSibling_eq, hsiblings, hpart]
    simp only [String.append_assoc]
  have hcolon : (":" ++ text ++ back).toList.head? = some ':' := by
    rw [String.toList_append, String.toList_append]
    rfl
  obtain ⟨front', htrimmed⟩ :=
    exists_trimStart_append hcolon (by decide) (front ++ " " ++ field)
  obtain ⟨blanks, hblanks⟩ : ∃ blanks, filter.compile = blanks ++ trimStart filter.compile := by
    refine ⟨String.ofList (filter.compile.toList.takeWhile isBlank), ?_⟩
    rw [← String.toList_inj, String.toList_append, String.toList_ofList, Text.toList_trimStart,
      List.takeWhile_append_dropWhile]
  refine ⟨blanks ++ front', back, ?_⟩
  rw [hblanks, trimStart_compile, hrender, htrimmed]
  simp only [String.append_assoc]

/-- A document that is read with a value for a field is read with other values in the same place
too. -/
theorem exists_ofJson_of_standsFor {place : Place (String × Json)} {field : String} {json : Json}
    {value : FilterValue} {filter : Filter} (hvalue : json.StandsFor value)
    (h : ofJson (.object (place.fillMembers [(field, json)])) = .ok filter) :
    ∃ place', IsJoined (Place.fillFilters place' [condition field value]) filter ∧
      ∀ json' value', Json.StandsFor json' value' →
        ∃ filter', ofJson (.object (place.fillMembers [(field, json')])) = .ok filter' ∧
          IsJoined (place'.fillFilters [condition field value']) filter' := by
  obtain ⟨place', inner, hinner, hjoined, hread⟩ := exists_ofJson_fillMembers h
  have hsingle : MembersDescribe [(field, json)] [condition field value] :=
    .cons (.condition hvalue) .nil
  obtain rfl : inner = [condition field value] := Except.ok.inj
    ((ofMembers_of_membersDescribe hinner).symm.trans (ofMembers_of_membersDescribe hsingle))
  exact ⟨place', hjoined, fun json' value' hvalue' =>
    hread _ _ (.cons (.condition hvalue') .nil)⟩

/-- Values that are rendered alike may take one another's place in a document. -/
theorem exists_compile_eq_of_render_eq {place : Place (String × Json)} {field : String}
    {json json' : Json} {value value' : FilterValue} {filter : Filter}
    (hvalue : json.StandsFor value) (hvalue' : json'.StandsFor value')
    (hrender : value.render = value'.render)
    (h : ofJson (.object (place.fillMembers [(field, json)])) = .ok filter) :
    ∃ filter', ofJson (.object (place.fillMembers [(field, json')])) = .ok filter' ∧
      filter'.compile = filter.compile := by
  obtain ⟨place', hjoined, hread⟩ := exists_ofJson_of_standsFor hvalue h
  obtain ⟨filter', hfilter', hjoined'⟩ := hread json' value' hvalue'
  have hparts : renderSiblings [condition field value'] =
      renderSiblings [condition field value] := by
    simp only [renderSiblings, renderSibling, conditionText, hrender]
  have hsiblings : filter'.renderSibling = filter.renderSibling := by
    rw [hjoined'.renderSibling_eq, hjoined.renderSibling_eq,
      renderSiblings_fillFilters_congr hparts]
  have hbegins : filter'.BeginsBlank ↔ filter.BeginsBlank := by
    rw [hjoined'.beginsBlank_iff, hjoined.beginsBlank_iff,
      beginsBlank_condition_congr hrender.symm]
  exact ⟨filter', hfilter', (compile_of_renderSibling_eq hsiblings).2.2 hbegins⟩

end Filter

end SearchDomain
