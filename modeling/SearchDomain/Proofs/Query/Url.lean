/-
  SearchDomain.Proofs.Query.Url

  What the query string of a search stands for. The parameters that a search is
  meant to send are listed here on their own, by what the version and the
  options say; the query string, taken apart and decoded, has these parameters
  in this order, and no name twice.
-/
import SearchDomain.Proofs.Query.Form
import SearchDomain.Query.Url

namespace SearchDomain.Query

/-! ## The parameters that are meant -/

/-- The hits on a page: as many as asked for, or the version's own number for none and zero. -/
def intendedSize (version : ApiVersion) (options : SearchOptions) : Nat :=
  if options.pageSize.getD 0 = 0 then version.usualPageSize.toNat
  else (options.pageSize.getD 0).toNat

/-- The cursor, for a version that has cursors. -/
def intendedCursor (version : ApiVersion) (options : SearchOptions) : Option String :=
  options.cursor.filter fun _ => version.hasCursors

/-- The hits in front of the page, for a search without a cursor. -/
def intendedStart (version : ApiVersion) (options : SearchOptions) : Option Nat :=
  (options.page.filter fun _ => (intendedCursor version options).isNone).map fun page =>
    (max page.toNat 1 - 1) * intendedSize version options

/-- The names and values that a search without return fields is meant to send, in order. -/
def intendedParameters (version : ApiVersion) (term : String) (options : SearchOptions) :
    List (String × String) :=
  termParameters term (options.filter.bind Filter.compile?) version ++
    [("size", toString (intendedSize version options))] ++
    (intendedStart version options).toList.map (fun start => ("start", toString start)) ++
    options.rank.toList.map (fun rank => (version.rankParameter, rank.fragment version)) ++
    (intendedCursor version options).toList.map (fun cursor => ("cursor", cursor))

/-! ## The parameters that are sent -/

theorem pageSizeInForce_eq (version : ApiVersion) (options : SearchOptions) :
    (options.pageSizeInForce version).toNat = intendedSize version options := by
  unfold SearchOptions.pageSizeInForce intendedSize
  cases options.pageSize with
  | none => rw [Option.getD_none, if_pos rfl]
  | some size =>
    rw [Option.getD_some]
    by_cases hsize : size = 0
    · subst hsize
      rw [if_pos rfl]
      rfl
    · have hpos : 0 < size := by
        rw [UInt32.lt_iff_toNat_lt]
        exact Nat.pos_of_ne_zero fun h => hsize (UInt32.toNat_inj.1 h)
      simp only [hpos, hsize, if_true, if_false]

theorem cursorInForce_eq (version : ApiVersion) (options : SearchOptions) :
    options.cursorInForce version = intendedCursor version options := by
  unfold SearchOptions.cursorInForce intendedCursor
  cases options.cursor <;> cases version.hasCursors <;> rfl

theorem start_eq (version : ApiVersion) (options : SearchOptions) :
    options.start version = intendedStart version options := by
  unfold SearchOptions.start intendedStart
  rw [cursorInForce_eq, ← pageSizeInForce_eq]
  cases options.page <;> cases intendedCursor version options <;> rfl

/-- Without return fields, what is sent is what is meant, each value encoded. -/
theorem parameters_eq_map_encoded {version : ApiVersion} {term : String}
    {options : SearchOptions} (hfields : options.returnFields = []) :
    parameters version term options =
      (intendedParameters version term options).map fun p => .encoded p.1 p.2 := by
  have hasks : options.asksForFields = false := by
    rw [SearchOptions.asksForFields, hfields]
    rfl
  rw [parameters, intendedParameters, compiledFilter, hasks, pageSizeInForce_eq, start_eq,
    cursorInForce_eq]
  cases intendedStart version options <;> cases options.rank <;>
    cases intendedCursor version options <;> simp

/-! ## Names -/

/-- The names of parameters that a version knows, in the order in which they are sent. -/
def parameterNames : ApiVersion → List String
  | .legacy => ["q", "bq", "size", "start", "rank", "cursor"]
  | .structured => ["q", "q.parser", "size", "start", "sort", "cursor"]

theorem parameterNames_nodup (version : ApiVersion) : (parameterNames version).Nodup := by
  cases version <;> decide

/-- Each name stands for itself in a query string. -/
theorem encode_of_mem_parameterNames {version : ApiVersion} {name : String}
    (h : name ∈ parameterNames version) : encode name = name := by
  have hall : ∀ name ∈ parameterNames .legacy ++ parameterNames .structured,
      encode name = name := by decide
  cases version with
  | legacy => exact hall name (List.mem_append_left _ h)
  | structured => exact hall name (List.mem_append_right _ h)

theorem names_termParameters_sublist (term : String) (filter : Option String)
    (version : ApiVersion) :
    ((termParameters term filter version).map Prod.fst).Sublist
      ((parameterNames version).take 2) := by
  cases version <;> cases filter <;> simp [termParameters, parameterNames]

/-- An optional parameter has one name. -/
theorem names_toList_map_sublist {α : Type} (value : Option α) (name : String)
    (text : α → String) :
    ((value.toList.map fun a => (name, text a)).map Prod.fst).Sublist [name] := by
  cases value <;> simp

/-- The parameters of a search have names of the version, in the version's order. -/
theorem names_intendedParameters_sublist (version : ApiVersion) (term : String)
    (options : SearchOptions) :
    ((intendedParameters version term options).map Prod.fst).Sublist (parameterNames version) := by
  have hnames : parameterNames version = (parameterNames version).take 2 ++ ["size"] ++
      ["start"] ++ [version.rankParameter] ++ ["cursor"] := by
    cases version <;> rfl
  rw [hnames]
  simp only [intendedParameters, List.map_append]
  exact ((((names_termParameters_sublist _ _ _).append (List.Sublist.refl _)).append
    (names_toList_map_sublist _ _ _)).append (names_toList_map_sublist _ _ _)).append
    (names_toList_map_sublist _ _ _)

/-! ## Query strings -/

theorem intendedParameters_ne_nil (version : ApiVersion) (term : String)
    (options : SearchOptions) : intendedParameters version term options ≠ [] := by
  simp [intendedParameters]

/-- The query string of a search without return fields stands for the intended parameters. -/
theorem decode_queryString {version : ApiVersion} {term : String} {options : SearchOptions}
    (hfields : options.returnFields = []) :
    decode (queryString version term options) =
      some (intendedParameters version term options) := by
  have htexts : (parameters version term options).map QueryParameter.text =
      (intendedParameters version term options).map
        fun p => encode p.1 ++ "=" ++ encode p.2 := by
    rw [parameters_eq_map_encoded hfields, List.map_map]
    refine List.map_congr_left fun p hp => ?_
    have hname := (names_intendedParameters_sublist version term options).subset
      (List.mem_map_of_mem (f := Prod.fst) hp)
    rw [Function.comp_apply, QueryParameter.text, encode_of_mem_parameterNames hname]
  rw [queryString, htexts, decode_intercalate (intendedParameters_ne_nil version term options)]

/-- The URL of a search without return fields is the host, the version and a query string that
stands for the intended parameters, with no name twice. -/
theorem searchUrl_decodes (host : String) (version : ApiVersion) (term : String)
    (options : SearchOptions) (hfields : options.returnFields = []) :
    ∃ query, searchUrl host version term options =
        host ++ "/" ++ version.text ++ "/search?" ++ query ∧
      decode query = some (intendedParameters version term options) ∧
      ((intendedParameters version term options).map Prod.fst).Nodup :=
  ⟨queryString version term options, rfl, decode_queryString hfields,
    (parameterNames_nodup version).sublist (names_intendedParameters_sublist version term options)⟩

/-- Separators, spaces and letters beyond ASCII come back out of every parameter. -/
theorem searchUrl_decodes_separators :
    ({ filter := some (.condition "a" (.scalar "'&=")), page := some 3,
       rank := some ⟨"é#", .descending⟩ } : SearchOptions).returnFields = [] ∧
    ∃ query, searchUrl "http://host" .structured "+ %41" {
        filter := some (.condition "a" (.scalar "'&=")), page := some 3,
        rank := some ⟨"é#", .descending⟩ } =
        "http://host" ++ "/" ++ "2013-01-01" ++ "/search?" ++ query ∧
      decode query = some [("q", "(and '+ %41' a:'\\'&=')"), ("q.parser", "structured"),
        ("size", "100"), ("start", "200"), ("sort", "é# desc")] := by
  refine ⟨rfl, ?_⟩
  obtain ⟨query, hurl, hdecode, -⟩ := searchUrl_decodes "http://host" .structured "+ %41"
    { filter := some (.condition "a" (.scalar "'&=")), page := some 3,
      rank := some ⟨"é#", .descending⟩ } rfl
  exact ⟨query, hurl, hdecode⟩

end SearchDomain.Query
