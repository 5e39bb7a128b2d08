/-
  SearchDomain.Proofs.Query.SilentFilter

  Filters that leave no trace in a URL. A filter that compiles to a text adds a
  parameter, so a mark more stands in front of the page size; one that compiles
  to nothing is not sent. Main statement: a filter is dropped, in its own text,
  in the text of what it stands in and in every URL, exactly when each of its
  conditions says nothing.
-/
import SearchDomain.Proofs.Filter.Silent
import SearchDomain.Proofs.Query.Form
import SearchDomain.Query.Url

namespace SearchDomain

namespace Query

/-! ## The front of a query string -/

/-- The parameters behind those of the term and the filter. -/
def otherParameters (version : ApiVersion) (options : SearchOptions) : List QueryParameter :=
  [.encoded "size" (toString (options.pageSizeInForce version).toNat)] ++
    (if options.asksForFields then
      [.verbatim version.returnFieldsParameter (",".intercalate options.returnFields)]
    else []) ++
    ((options.start version).map fun start => .encoded "start" (toString start)).toList ++
    (options.rank.map fun rank =>
      .encoded version.rankParameter (rank.fragment version)).toList ++
    ((options.cursorInForce version).map (.encoded "cursor")).toList

/-- The characters that a term and a compiled filter are sent as. -/
def termChars (version : ApiVersion) (term : String) (filter : Option String) : List Char :=
  ['&'].intercalate ((termParameters term filter version).map fun parameter =>
    (QueryParameter.encoded parameter.1 parameter.2).text.toList)

variable (version : ApiVersion) (term : String) (options : SearchOptions)

/-- Behind the term and the filter, a query string does not depend on either. -/
theorem toList_queryString_eq_append :
    (queryString version term options).toList =
      termChars version term (compiledFilter options) ++
        ((otherParameters version options).map fun parameter => parameter.text.toList).flatMap
          ('&' :: ·) := by
  have hparameters : parameters version term options =
      (termParameters term (compiledFilter options) version).map
        (fun parameter => .encoded parameter.1 parameter.2) ++ otherParameters version options := by
    simp only [parameters, otherParameters, List.append_assoc]
  have hne : termParameters term (compiledFilter options) version ≠ [] := by
    cases version <;> cases compiledFilter options <;> exact List.cons_ne_nil _ _
  have hamp : "&".toList = ['&'] := by decide
  rw [queryString, String.toList_intercalate, hamp, hparameters, List.map_append, List.map_append,
    Text.intercalate_append (by simpa using hne), termChars]
  simp only [List.map_map, Function.comp_def]

/-- A mark stands between the parameters of a term and a filter, and nowhere else in them. -/
theorem ampersand_mem_termChars_iff (filter : Option String) :
    '&' ∈ termChars version term filter ↔ filter ≠ none := by
  cases filter with
  | none =>
    have hpiece : '&' ∉ (QueryParameter.encoded "q" term).text.toList := by
      have hvalue : '&' ∉ encodeChars term := fun h => (ne_mark_of_mem_encodeChars h).1 rfl
      simpa [QueryParameter.text, encode] using hvalue
    have hchars : termChars version term none = (QueryParameter.encoded "q" term).text.toList := by
      cases version <;> exact List.intercalate_singleton
    rw [hchars]
    exact ⟨fun h => absurd h hpiece, fun h => absurd rfl h⟩
  | some compiled =>
    refine ⟨fun _ => Option.some_ne_none compiled, fun _ => ?_⟩
    cases version <;> simp [termChars, termParameters, List.intercalate_cons_cons]

/-- A URL is the one of the search without its filter exactly when no filter is sent. -/
theorem searchUrl_eq_iff_compiledFilter (host : String) :
    searchUrl host version term options =
        searchUrl host version term { options with filter := none } ↔
      compiledFilter options = none := by
  have hother : otherParameters version { options with filter := none } =
      otherParameters version options := rfl
  have hnone : compiledFilter { options with filter := none } = none := rfl
  rw [searchUrl, searchUrl, String.append_right_inj, ← String.toList_inj,
    toList_queryString_eq_append, toList_queryString_eq_append, hother, hnone,
    List.append_left_inj]
  constructor
  · intro h
    -- the two fronts agree, and one of them has no mark
    have hmark := (ampersand_mem_termChars_iff version term none).not.2 (not_not.2 rfl)
    rw [← h, ampersand_mem_termChars_iff, not_not] at hmark
    exact hmark
  · intro h
    rw [h]

end Query

namespace Filter

/-- A filter compiles to nothing exactly when each of its conditions says nothing. The same holds,
at any depth in it, for what a part adds to the text around it, so that the rest has the same text
without the part. The URL of any search is the one without the filter in that case alone. -/
theorem dropped_iff_eachSaysNothing (filter : Filter) :
    (filter.compile = "" ↔ filter.EachSaysNothing) ∧
    (∀ whole, Within whole filter → ∀ before part after,
      whole.children = before ++ part :: after →
      (part.renderSibling = "" ↔ part.EachSaysNothing) ∧
      (renderSiblings whole.children = renderSiblings (before ++ after) ↔
        part.EachSaysNothing)) ∧
    ∀ (host : String) (version : ApiVersion) (term : String) (options : SearchOptions),
      Query.searchUrl host version term { options with filter := some filter } =
          Query.searchUrl host version term { options with filter := none } ↔
        filter.compile = "" := by
  refine ⟨compile_eq_empty_iff_each, ?_, ?_⟩
  · intro whole _ before part after hchildren
    refine ⟨renderSibling_eq_empty_iff_each, ?_⟩
    rw [hchildren]
    exact renderSiblings_eq_iff_each before after
  · intro host version term options
    rw [Query.searchUrl_eq_iff_compiledFilter version term { options with filter := some filter },
      ← compile?_eq_none_iff]
    rfl

/-- A sequence of an empty text and a node without children leaves no trace in the node around it,
which has a condition besides. -/
theorem dropped_iff_eachSaysNothing_of_nested :
    Within (logic .negation [sequence [condition "a" (.scalar ""), logic .any []],
        condition "b" (.integer 1)])
      (logic .negation [sequence [condition "a" (.scalar ""), logic .any []],
        condition "b" (.integer 1)]) ∧
    (sequence [condition "a" (.scalar ""), logic .any []]).EachSaysNothing ∧
    renderSiblings [sequence [condition "a" (.scalar ""), logic .any []],
        condition "b" (.integer 1)] =
      renderSiblings [condition "b" (.integer 1)] := by
  have hpart : (sequence [condition "a" (.scalar ""), logic .any []]).EachSaysNothing :=
    saysNothing_iff.1 rfl
  have hparts := (dropped_iff_eachSaysNothing (logic .negation
    [sequence [condition "a" (.scalar ""), logic .any []], condition "b" (.integer 1)])).2.1
  exact ⟨.self, hpart, (hparts _ .self [] _ [condition "b" (.integer 1)] rfl).2.2 hpart⟩

end Filter

end SearchDomain
