/-
  SearchDomain.Proofs.Query.Terms

  A term cannot be mistaken for the filter it is sent with, nor change it. The
  structured version puts both into one query, the term as a literal in front;
  no compiled filter begins like that, because what stands behind a keyword is a
  condition or a node. Main statement: requests with the same term parameters
  have the same term and filters with the same canonical form.
-/
import SearchDomain.Proofs.Filter.Unambiguous
import SearchDomain.Query.Url

namespace SearchDomain

open CanonicalFilter (AreReadable allChars wholeChars)

/-- The canonical form of a filter that may be missing; a missing one says nothing. -/
def Filter.canonicalOf : Option Filter → List CanonicalFilter
  | none => []
  | some filter => filter.canonical

/-! ## The front of a joined query -/

/-- Whether a text begins like a query that joins a term and a filter. -/
def BeginsWithTerm (cs : List Char) : Prop :=
  ∃ rest, cs = '(' :: (Connective.all.keyword.toList ++ ' ' :: '\'' :: rest)

/-- No literal stands where the children of a node begin. -/
theorem allChars_append_ne_literal {children : List CanonicalFilter}
    (hchildren : AreReadable children) (rest more : List Char) :
    allChars children ++ ')' :: rest ≠ ' ' :: '\'' :: more := by
  intro h
  cases children with
  | nil => simp at h
  | cons child children =>
    cases child with
    | node op inner => simp [allChars, CanonicalFilter.chars] at h
    | leaf field value =>
      have hfield := hchildren.1.1
      simp only [allChars, CanonicalFilter.chars, List.cons_append, List.append_assoc,
        List.cons.injEq, true_and] at h
      -- the quote would have to be the first character of the field
      cases hchars : field.toList with
      | nil => simp [hchars] at h
      | cons c cs =>
        have hquote := (of_mem_plainField hfield (c := c) (by simp [hchars])).2.2.2.2
        rw [hchars, List.cons_append] at h
        exact hquote (List.cons.inj h).1

/-- No filter begins with a literal behind its first keyword. -/
theorem not_beginsWithTerm_wholeChars {fs : List CanonicalFilter} (hfs : AreReadable fs) :
    ¬ BeginsWithTerm (wholeChars fs) := by
  rintro ⟨rest, h⟩
  cases fs with
  | nil => simp [wholeChars] at h
  | cons f fs =>
    cases f with
    | leaf field value =>
      obtain ⟨c, cs, hchars, hc⟩ :=
        CanonicalFilter.exists_wholeChars_leaf hfs.1.1 value fs
      rw [hchars] at h
      exact hc (List.cons.inj h).1
    | node op children =>
      rw [CanonicalFilter.wholeChars_node, allChars, CanonicalFilter.chars, List.cons_append,
        List.append_assoc] at h
      obtain ⟨rfl, hmore⟩ := CanonicalFilter.keyword_append_inj (List.cons.inj h).2
      rw [List.append_assoc, List.singleton_append] at hmore
      exact allChars_append_ne_literal hfs.1 _ _ hmore

/-! ## Compiled filters that may be missing -/

namespace Filter

/-- A filter that may be missing compiles to nothing exactly when it says nothing. -/
theorem bind_compile?_eq_none_iff {filter : Option Filter} :
    filter.bind compile? = none ↔ canonicalOf filter = [] := by
  cases filter with
  | none => exact ⟨fun _ => rfl, fun _ => rfl⟩
  | some f =>
    rw [Option.bind_some, compile?_eq_none_iff]
    exact compile_eq_empty_iff

/-- Filters that may be missing compile to the same text exactly when they say the same. -/
theorem bind_compile?_eq_iff {f g : Option Filter} (hf : ∀ x ∈ f, x.isPlain = true)
    (hg : ∀ x ∈ g, x.isPlain = true) :
    f.bind compile? = g.bind compile? ↔ canonicalOf f = canonicalOf g := by
  cases hfc : f.bind compile? with
  | none =>
    rw [eq_comm, bind_compile?_eq_none_iff, bind_compile?_eq_none_iff.1 hfc, eq_comm]
  | some text =>
    obtain ⟨f, rfl, hftext⟩ := Option.bind_eq_some_iff.1 hfc
    obtain ⟨hcompile, hne⟩ := compile?_eq_some_iff.1 hftext
    constructor
    · intro h
      obtain ⟨g, rfl, hgtext⟩ := Option.bind_eq_some_iff.1 h.symm
      refine canonical_eq_of_compile_eq (hf f rfl) (hg g rfl) ?_
      rw [hcompile, (compile?_eq_some_iff.1 hgtext).1]
    · intro h
      cases g with
      | none =>
        have hempty := compile_eq_empty_iff.2 h
        exact absurd (hcompile.symm.trans hempty) hne
      | some g =>
        have htext := compile_eq_of_canonical_eq (hf f rfl) (hg g rfl) h
        rw [Option.bind_some, eq_comm, compile?_eq_some_iff]
        exact ⟨htext.symm.trans hcompile, hne⟩

/-- What a filter compiles to does not begin like a joined query. -/
theorem not_beginsWithTerm_of_compile? {filter : Option Filter}
    (hplain : ∀ f ∈ filter, f.isPlain = true) {text : String}
    (h : filter.bind compile? = some text) : ¬ BeginsWithTerm text.toList := by
  obtain ⟨f, rfl, htext⟩ := Option.bind_eq_some_iff.1 h
  rw [← (compile?_eq_some_iff.1 htext).1, toList_compile (hplain f rfl)]
  exact not_beginsWithTerm_wholeChars (areReadable_canonical f (hplain f rfl))

end Filter

/-! ## Term parameters -/

namespace Query

/-- The query that the structured version makes of a term and a compiled filter. -/
def joinedQuery (term compiled : String) : String :=
  if term = "" then compiled else "(and " ++ Text.quote term ++ " " ++ compiled ++ ")"

theorem termParameters_structured (term : String) (filter : Option String) :
    termParameters term filter .structured =
      match filter with
      | some compiled => [("q", joinedQuery term compiled), ("q.parser", "structured")]
      | none => [("q", term)] := rfl

theorem joinedQuery_of_empty (compiled : String) : joinedQuery "" compiled = compiled :=
  if_pos rfl

theorem toList_joinedQuery {term : String} (hterm : term ≠ "") (compiled : String) :
    (joinedQuery term compiled).toList = '(' :: (Connective.all.keyword.toList ++
      ' ' :: (Text.Quoted.literal term.toList ++ ' ' :: (compiled.toList ++ [')']))) := by
  rw [joinedQuery, if_neg hterm]
  simp [Text.toList_quote, Connective.keyword]

theorem beginsWithTerm_joinedQuery {term : String} (hterm : term ≠ "") (compiled : String) :
    BeginsWithTerm (joinedQuery term compiled).toList := by
  rw [toList_joinedQuery hterm, Text.Quoted.literal]
  exact ⟨_, rfl⟩

/-- A joined query gives away its term and its filter. -/
theorem joinedQuery_inj {term term' compiled compiled' : String}
    (hcompiled : ¬ BeginsWithTerm compiled.toList)
    (hcompiled' : ¬ BeginsWithTerm compiled'.toList)
    (h : joinedQuery term compiled = joinedQuery term' compiled') :
    term = term' ∧ compiled = compiled' := by
  by_cases hterm : term = "" <;> by_cases hterm' : term' = ""
  · subst hterm hterm'
    rw [joinedQuery_of_empty, joinedQuery_of_empty] at h
    exact ⟨rfl, h⟩
  · subst hterm
    rw [joinedQuery_of_empty] at h
    exact absurd (h ▸ beginsWithTerm_joinedQuery hterm' compiled') hcompiled
  · subst hterm'
    rw [joinedQuery_of_empty] at h
    exact absurd (h ▸ beginsWithTerm_joinedQuery hterm compiled) hcompiled'
  · have hchars := congrArg String.toList h
    rw [toList_joinedQuery hterm, toList_joinedQuery hterm'] at hchars
    have hquoted := List.append_cancel_left (List.cons.inj hchars).2
    obtain ⟨hname, hmore⟩ := Text.Quoted.literal_append_inj (List.cons.inj hquoted).2
    have hfilter := List.append_cancel_right (List.cons.inj hmore).2
    exact ⟨String.toList_inj.1 hname, String.toList_inj.1 hfilter⟩

/-- The term parameters give away the term and the compiled filter. -/
theorem termParameters_inj {version : ApiVersion} {term term' : String}
    {filter filter' : Option String}
    (hfilter : ∀ compiled ∈ filter, ¬ BeginsWithTerm compiled.toList)
    (hfilter' : ∀ compiled ∈ filter', ¬ BeginsWithTerm compiled.toList)
    (h : termParameters term filter version = termParameters term' filter' version) :
    term = term' ∧ filter = filter' := by
  cases version with
  | legacy => cases filter <;> cases filter' <;> simp_all [termParameters]
  | structured =>
    rw [termParameters_structured, termParameters_structured] at h
    cases filter with
    | none => cases filter' <;> simp_all
    | some compiled =>
      cases filter' with
      | none => simp at h
      | some compiled' =>
        have hquery : joinedQuery term compiled = joinedQuery term' compiled' := by
          simpa using h
        obtain ⟨rfl, rfl⟩ := joinedQuery_inj (hfilter compiled rfl) (hfilter' compiled' rfl) hquery
        exact ⟨rfl, rfl⟩

/-- Two requests have the same term parameters exactly when they have the same term and their
filters have the same canonical form. -/
theorem termParameters_eq_iff (version : ApiVersion) (term term' : String)
    {filter filter' : Option Filter} (hfilter : ∀ f ∈ filter, f.isPlain = true)
    (hfilter' : ∀ f ∈ filter', f.isPlain = true) :
    termParameters term (filter.bind Filter.compile?) version =
        termParameters term' (filter'.bind Filter.compile?) version ↔
      term = term' ∧ Filter.canonicalOf filter = Filter.canonicalOf filter' := by
  rw [← Filter.bind_compile?_eq_iff hfilter hfilter']
  constructor
  · intro h
    exact termParameters_inj
      (fun _ hc => Filter.not_beginsWithTerm_of_compile? hfilter hc)
      (fun _ hc => Filter.not_beginsWithTerm_of_compile? hfilter' hc) h
  · rintro ⟨rfl, h⟩
    rw [h]

/-- A term that spells the end of a literal and a condition is not the condition. -/
theorem termParameters_eq_iff_of_spelled :
    (Filter.condition "b" (.integer 2)).isPlain = true ∧
    (Filter.sequence [.condition "a" (.integer 1), .condition "b" (.integer 2)]).isPlain = true ∧
    termParameters "x' a:1" ((some (.condition "b" (.integer 2))).bind Filter.compile?)
        .structured ≠
      termParameters "x" ((some (.sequence [.condition "a" (.integer 1),
        .condition "b" (.integer 2)])).bind Filter.compile?) .structured := by
  refine ⟨by decide, by decide, ?_⟩
  rw [Ne, termParameters_eq_iff .structured "x' a:1" "x"
    (by rintro _ ⟨⟩; decide) (by rintro _ ⟨⟩; decide)]
  exact fun h => absurd h.1 (by decide)

end Query

end SearchDomain
