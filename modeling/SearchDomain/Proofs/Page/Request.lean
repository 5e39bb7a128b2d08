/-
  SearchDomain.Proofs.Page.Request

  The page that is asked for and the page that is read. The query of a search
  carries the number of hits on a page and, when a page is asked for, the number
  of hits in front of it; an answer that begins there is read as the page that
  was asked for. What a query carries is said of its text, decoded. The number of
  hits in front of a page stays within 64 bits for all pages and sizes.
-/
import SearchDomain.Page
import SearchDomain.Proofs.Query.ReturnFields

namespace SearchDomain

/-! ## What is sent -/

namespace Query

/-- The values under a name, in order. -/
def valuesUnder (name : String) (parameters : List (String × String)) : List String :=
  (parameters.filter fun parameter => parameter.1 = name).map Prod.snd

theorem valuesUnder_append (name : String) (first second : List (String × String)) :
    valuesUnder name (first ++ second) = valuesUnder name first ++ valuesUnder name second := by
  rw [valuesUnder, List.filter_append, List.map_append]
  rfl

theorem valuesUnder_eq_nil {name : String} {parameters : List (String × String)}
    (h : ∀ parameter ∈ parameters, parameter.1 ≠ name) : valuesUnder name parameters = [] := by
  rw [valuesUnder, List.map_eq_nil_iff, List.filter_eq_nil_iff]
  intro parameter hparameter
  simpa using h parameter hparameter

/-- The values that a query carries under a name, once it is decoded. -/
def sentUnder (name query : String) : List String :=
  valuesUnder name ((received query).getD [])

/-- A query that carries one page size and one start, the start within 64 bits. -/
structure AsksFor (query : String) (size start : Nat) : Prop where
  size_sent : sentUnder "size" query = [toString size]
  start_sent : sentUnder "start" query = [toString start]
  start_lt : start < 0x10000000000000000

variable {version : ApiVersion} {options : SearchOptions}

/-- Neither the term nor the filter is sent under one of the names of paging. -/
theorem valuesUnder_termParameters {name : String} (h : name = "size" ∨ name = "start")
    (version : ApiVersion) (term : String) (filter : Option String) :
    valuesUnder name (termParameters term filter version) = [] := by
  rcases h with rfl | rfl <;> cases version <;> cases filter <;> rfl

/-- Behind the return fields, only the start is sent under one of the names of paging. -/
theorem valuesUnder_trailingParameters {name : String} (h : name = "size" ∨ name = "start")
    (version : ApiVersion) (options : SearchOptions) :
    valuesUnder name (trailingParameters version options) =
      valuesUnder name
        ((intendedStart version options).toList.map fun start => ("start", toString start)) := by
  have hrank : version.rankParameter ≠ name := by
    rcases h with rfl | rfl <;> cases version <;> decide
  have hcursor : "cursor" ≠ name := by
    rcases h with rfl | rfl <;> decide
  have hranks : ∀ parameter ∈ options.rank.toList.map
      (fun rank => (version.rankParameter, rank.fragment version)), parameter.1 ≠ name := by
    intro parameter hparameter
    obtain ⟨rank, -, rfl⟩ := List.mem_map.1 hparameter
    exact hrank
  have hcursors : ∀ parameter ∈ (intendedCursor version options).toList.map
      (fun cursor => ("cursor", cursor)), parameter.1 ≠ name := by
    intro parameter hparameter
    obtain ⟨cursor, -, rfl⟩ := List.mem_map.1 hparameter
    exact hcursor
  rw [trailingParameters, valuesUnder_append, valuesUnder_append, valuesUnder_eq_nil hranks,
    valuesUnder_eq_nil hcursors, List.append_nil, List.append_nil]

section

variable (hfields : ∀ name ∈ options.returnFields, StandForThemselves name.toList)

include hfields

/-- Beside the page size and the start, a query carries nothing under one of the names of paging. -/
theorem sentUnder_queryString {name : String} (h : name = "size" ∨ name = "start")
    (term : String) :
    sentUnder name (queryString version term options) =
      valuesUnder name [("size", toString (intendedSize version options))] ++
        valuesUnder name
          ((intendedStart version options).toList.map fun start => ("start", toString start)) := by
  obtain ⟨fields, hnames, hreceived⟩ := exists_received_eq version term hfields
  have hnone : valuesUnder name fields = [] := by
    refine valuesUnder_eq_nil fun parameter hparameter => ?_
    rw [hnames parameter hparameter]
    rcases h with rfl | rfl <;> cases version <;> decide
  rw [sentUnder, hreceived, Option.getD_some, valuesUnder_append, valuesUnder_append, hnone,
    leadingParameters, valuesUnder_append, valuesUnder_termParameters h,
    valuesUnder_trailingParameters h, List.nil_append, List.append_nil]

/-- The page size is sent once. -/
theorem sentUnder_size (term : String) :
    sentUnder "size" (queryString version term options) =
      [toString (intendedSize version options)] := by
  rw [sentUnder_queryString hfields (.inl rfl)]
  cases intendedStart version options <;> rfl

/-- The number of hits in front of the page is sent once, when there is one to send. -/
theorem sentUnder_start (term : String) :
    sentUnder "start" (queryString version term options) =
      (intendedStart version options).toList.map toString := by
  rw [sentUnder_queryString hfields (.inr rfl)]
  cases intendedStart version options <;> rfl

end

end Query

/-! ## The page that is asked for -/

namespace SearchOptions

/-- The same search for the page with a number. -/
def atPage (options : SearchOptions) (page : UInt32) : SearchOptions :=
  { options with page := some page }

variable {version : ApiVersion} {options : SearchOptions}

theorem pageSizeInForce_pos (version : ApiVersion) (options : SearchOptions) :
    0 < (options.pageSizeInForce version).toNat := by
  have husual : 0 < version.usualPageSize.toNat := by cases version <;> decide
  unfold pageSizeInForce
  split
  · split
    · next hpos => exact UInt32.lt_iff_toNat_lt.1 hpos
    · exact husual
  · exact husual

/-- With no cursor sent, a page begins behind the pages in front of it. -/
theorem intendedStart_atPage (hcursor : options.cursorInForce version = none) (page : UInt32) :
    Query.intendedStart version (options.atPage page) =
      some ((max page.toNat 1 - 1) * Query.intendedSize version options) := by
  have hnone : Query.intendedCursor version (options.atPage page) = none := by
    rw [← Query.cursorInForce_eq]
    exact hcursor
  rw [Query.intendedStart, hnone]
  rfl

/-- The hits in front of a page are fewer than two to the power of 64. -/
theorem start_lt (page : UInt32) (version : ApiVersion) (options : SearchOptions) :
    (max page.toNat 1 - 1) * Query.intendedSize version options < 0x10000000000000000 := by
  have hpage : max page.toNat 1 - 1 ≤ 0x100000000 := by
    have hlt := page.toNat_lt
    omega
  have hsize : Query.intendedSize version options < 0x100000000 := by
    rw [← Query.pageSizeInForce_eq]
    exact (options.pageSizeInForce version).toNat_lt
  calc (max page.toNat 1 - 1) * Query.intendedSize version options
    _ ≤ 0x100000000 * Query.intendedSize version options := Nat.mul_le_mul_right _ hpage
    _ < 0x100000000 * 0x100000000 := Nat.mul_lt_mul_of_pos_left hsize (by decide)

/-- With no cursor sent, the query of a search for a page carries its size and where it begins. -/
theorem asksFor_atPage (hcursor : options.cursorInForce version = none)
    (hfields : ∀ name ∈ options.returnFields, Query.StandForThemselves name.toList)
    (term : String) (page : UInt32) :
    Query.AsksFor (Query.queryString version term (options.atPage page))
      (Query.intendedSize version options)
      ((max page.toNat 1 - 1) * Query.intendedSize version options) := by
  have hsame : ∀ name ∈ (options.atPage page).returnFields,
      Query.StandForThemselves name.toList := hfields
  refine ⟨Query.sentUnder_size hsame term, ?_, start_lt page version options⟩
  rw [Query.sentUnder_start hsame, intendedStart_atPage hcursor]
  rfl

end SearchOptions

/-! ## The page that is read -/

namespace Page

/-- The number that an answer gives under a name among its hits. -/
def countIn (name : String) (body : Json) : Option Nat :=
  ((body.member? "hits").bind (Json.member? name)).bind Json.asNat?

/-- An answer that begins at a whole number of pages is read as the page behind them. -/
theorem ofResponse_of_countIn {body : Json} {size : UInt32} {k : Nat} (key : Option String)
    (hsize : 0 < size.toNat) (hk : k + 1 < 0x10000000000000000)
    (hstart : countIn "start" body = some (k * size.toNat)) :
    ∃ page, ofResponse body size key = .ok page ∧ page.pageSize = size.toNat ∧
      page.currentPage = k + 1 ∧ page.totalEntries = (countIn "found" body).getD 0 := by
  obtain ⟨json, hjson, hnumber⟩ := Option.bind_eq_some_iff.1 hstart
  obtain ⟨hits, hhits, hmember⟩ := Option.bind_eq_some_iff.1 hjson
  cases hits with
  | object found =>
    have hmax : max size.toNat 1 = size.toNat := by omega
    have hplace : (((Json.object found).member? "start").bind Json.asNat?).getD 0 =
        k * size.toNat := by
      rw [hmember, Option.bind_some, hnumber, Option.getD_some]
    have hdiv : k * size.toNat / size.toNat + 1 = k + 1 := by
      rw [Nat.mul_div_cancel _ hsize]
    have hfits : k * size.toNat / size.toNat + 1 < 0x10000000000000000 := by
      rw [hdiv]
      exact hk
    have hfound : countIn "found" body =
        ((Json.object found).member? "found").bind Json.asNat? := by
      rw [countIn, hhits, Option.bind_some]
    rw [ofResponse, hhits, hfound]
    simp only [Option.bind_some, Json.asObject?, hmax, hplace]
    rw [if_pos hfits]
    exact ⟨_, rfl, rfl, hdiv, rfl⟩
  | null | bool | number | string | array => cases hmember

end Page

end SearchDomain
