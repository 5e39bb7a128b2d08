/-
  SearchDomain.Proofs.Page.Walk

  Walking through the pages of a search: the first page is asked for, and from
  every page the next one, until a page has none. A service is what it answers to
  URLs; one that echoes where a URL starts answers with the page that was asked
  for, so that a walk goes from each page to the one behind it and ends with the
  last. Main statement: requests and pages agree, and a walk shows every match in
  one window.
-/
import Mathlib.Data.List.Chain
import Mathlib.Data.List.Range
import SearchDomain.Proofs.Number.Digits
import SearchDomain.Proofs.Page.Request

namespace SearchDomain

namespace Page

/-! ## Windows -/

/-- How many pages of a size some matches take, at least one. -/
def pageCount (total size : Nat) : Nat :=
  max ((total + size - 1) / size) 1

/-- Whether the match at an index is in the window of a page. -/
def Covers (page : Page) (index : Nat) : Prop :=
  page.offset ≤ index ∧ index < page.offset + page.pageSize

/-- Windows that follow one another, have no match in common, and leave none out. -/
structure CoverOnce (pages : List Page) (total : Nat) : Prop where
  consecutive : pages.IsChain fun page next => next.offset = page.offset + page.pageSize
  disjoint : pages.Pairwise fun page other => ∀ index, ¬(page.Covers index ∧ other.Covers index)
  complete : ∀ index, index < total → ∃ page ∈ pages, page.Covers index

/-- The pages have room for all matches. -/
theorem le_pageCount_mul (total : Nat) {size : Nat} (hsize : 0 < size) :
    total ≤ pageCount total size * size := by
  have hdiv : (total + size - 1) % size + size * ((total + size - 1) / size) = total + size - 1 :=
    Nat.mod_add_div _ _
  have hmod : (total + size - 1) % size < size := Nat.mod_lt _ hsize
  have hle : (total + size - 1) / size * size ≤ pageCount total size * size :=
    Nat.mul_le_mul_right _ (Nat.le_max_left _ _)
  rw [Nat.mul_comm] at hdiv
  omega

section

variable {pages : List Page} {count size : Nat}

theorem one_le_currentPage (hnumbers : pages.map Page.currentPage = List.range' 1 count)
    {page : Page} (hpage : page ∈ pages) : 1 ≤ page.currentPage := by
  have hmem : page.currentPage ∈ pages.map Page.currentPage := List.mem_map.2 ⟨page, hpage, rfl⟩
  rw [hnumbers, List.mem_range'_1] at hmem
  exact hmem.1

/-- Where pages are numbered in order, each window begins where the last one ended. -/
theorem isChain_offset (hnumbers : pages.map Page.currentPage = List.range' 1 count)
    (hsize : ∀ page ∈ pages, page.pageSize = size) :
    pages.IsChain fun page next => next.offset = page.offset + page.pageSize := by
  have hchain : (pages.map Page.currentPage).IsChain fun number next => next = number + 1 := by
    rw [hnumbers]
    exact List.isChain_range' 1 count 1
  rw [List.isChain_map] at hchain
  refine hchain.imp_of_mem_imp fun page next hpage hnext hnumber => ?_
  have hpos : 1 ≤ page.currentPage := one_le_currentPage hnumbers hpage
  have hpred : next.currentPage - 1 = (page.currentPage - 1) + 1 := by omega
  rw [offset, offset, hsize page hpage, hsize next hnext, hpred, Nat.add_mul, Nat.one_mul]

/-- Where pages are numbered in order, no match is in two windows. -/
theorem pairwise_not_covers (hnumbers : pages.map Page.currentPage = List.range' 1 count)
    (hsize : ∀ page ∈ pages, page.pageSize = size) :
    pages.Pairwise fun page other => ∀ index, ¬(page.Covers index ∧ other.Covers index) := by
  have hlt : (pages.map Page.currentPage).Pairwise fun number other => number < other := by
    rw [hnumbers]
    exact List.pairwise_lt_range' 1
  rw [List.pairwise_map] at hlt
  refine hlt.imp_of_mem fun {page other} hpage hother hnumber => ?_
  rintro index ⟨⟨-, hend⟩, hbegin, -⟩
  rw [offset, hsize page hpage] at hend
  rw [offset, hsize other hother] at hbegin
  have hpos : 1 ≤ page.currentPage := one_le_currentPage hnumbers hpage
  have hpred : (page.currentPage - 1) + 1 ≤ other.currentPage - 1 := by omega
  have hmul : ((page.currentPage - 1) + 1) * size ≤ (other.currentPage - 1) * size :=
    Nat.mul_le_mul_right _ hpred
  rw [Nat.add_mul, Nat.one_mul] at hmul
  omega

/-- Where pages are numbered from one to their count, every match in their room is in a window. -/
theorem exists_covers (hnumbers : pages.map Page.currentPage = List.range' 1 count)
    (hsize : ∀ page ∈ pages, page.pageSize = size) (hpos : 0 < size) {index : Nat}
    (hindex : index < count * size) : ∃ page ∈ pages, page.Covers index := by
  have hdiv : index / size < count := (Nat.div_lt_iff_lt_mul hpos).2 hindex
  have hmem : index / size + 1 ∈ pages.map Page.currentPage := by
    rw [hnumbers, List.mem_range'_1, Nat.add_comm 1 count]
    exact ⟨Nat.le_add_left 1 _, Nat.add_lt_add_right hdiv 1⟩
  obtain ⟨page, hpage, hnumber⟩ := List.mem_map.1 hmem
  refine ⟨page, hpage, ?_⟩
  -- the match is at its remainder within that window
  have hsplit : index % size + size * (index / size) = index := Nat.mod_add_div _ _
  have hmod : index % size < size := Nat.mod_lt _ hpos
  rw [Nat.mul_comm] at hsplit
  rw [Covers, offset, hsize page hpage, hnumber, Nat.add_sub_cancel]
  omega

/-- Pages numbered from one to their count show all matches that they have room for. -/
theorem coverOnce_of_numbers (hnumbers : pages.map Page.currentPage = List.range' 1 count)
    (hsize : ∀ page ∈ pages, page.pageSize = size) (hpos : 0 < size) {total : Nat}
    (hroom : total ≤ count * size) : CoverOnce pages total where
  consecutive := isChain_offset hnumbers hsize
  disjoint := pairwise_not_covers hnumbers hsize
  complete := fun _ hindex =>
    exists_covers hnumbers hsize hpos (Nat.lt_of_lt_of_le hindex hroom)

end

/-! ## Walks -/

/-- The pages that are seen from a page on when the next page is asked for as long as there is
one; `fetch` gives the page with a number. -/
inductive Walk (fetch : UInt32 → Except PageError Page) : UInt32 → List Page → Prop
  | last {number : UInt32} {page : Page} (hpage : fetch number = .ok page)
      (hnext : page.nextPage = none) : Walk fetch number [page]
  | more {number next : UInt32} {page : Page} {pages : List Page}
      (hpage : fetch number = .ok page) (hnext : page.nextPage = some next.toNat)
      (hrest : Walk fetch next pages) : Walk fetch number (page :: pages)

/-- There is one way to walk. -/
theorem Walk.unique {fetch : UInt32 → Except PageError Page} {number : UInt32}
    {pages others : List Page} (h : Walk fetch number pages) (h' : Walk fetch number others) :
    others = pages := by
  induction h generalizing others with
  | last hpage hnext =>
    cases h' with
    | last hpage' =>
      rw [hpage] at hpage'
      cases hpage'
      rfl
    | more hpage' hnext' =>
      rw [hpage] at hpage'
      cases hpage'
      rw [hnext] at hnext'
      cases hnext'
  | more hpage hnext hrest ih =>
    cases h' with
    | last hpage' hnext' =>
      rw [hpage] at hpage'
      cases hpage'
      rw [hnext] at hnext'
      cases hnext'
    | more hpage' hnext' hrest' =>
      rw [hpage] at hpage'
      cases hpage'
      rw [hnext, Option.some.injEq, UInt32.toNat_inj] at hnext'
      subst hnext'
      rw [ih hrest']

/-- The next page of a page is the one behind it, up to the last. -/
theorem nextPage_eq (page : Page) :
    page.nextPage = if page.currentPage < pageCount page.totalEntries page.pageSize then
      some (page.currentPage + 1) else none := rfl

section

variable {fetch : UInt32 → Except PageError Page} {total size : Nat}

/-- If every page that is asked for is the one that comes, the walk from a page on exists and goes
through the numbers up to the page count. -/
theorem exists_walk
    (hfetch : ∀ number : UInt32, 0 < number.toNat → ∃ page, fetch number = .ok page ∧
      page.currentPage = number.toNat ∧ page.pageSize = size ∧ page.totalEntries = total)
    (hcount : pageCount total size < 0x100000000) (left : Nat) :
    ∀ number : UInt32, 0 < number.toNat → number.toNat + left = pageCount total size →
      ∃ pages, Walk fetch number pages ∧
        pages.map Page.currentPage = List.range' number.toNat (left + 1) ∧
        ∀ page ∈ pages, page.pageSize = size ∧ page.totalEntries = total := by
  -- by the number of pages behind the one that is asked for
  induction left with
  | zero =>
    intro number hpos hlast
    obtain ⟨page, hpage, hnumber, hsize, htotal⟩ := hfetch number hpos
    have hnext : page.nextPage = none := by
      rw [nextPage_eq, hnumber, hsize, htotal, if_neg (by omega)]
    refine ⟨[page], .last hpage hnext, ?_, ?_⟩
    · rw [List.map_singleton, hnumber]
      rfl
    · intro other hother
      cases List.mem_singleton.1 hother
      exact ⟨hsize, htotal⟩
  | succ left ih =>
    intro number hpos hlast
    obtain ⟨page, hpage, hnumber, hsize, htotal⟩ := hfetch number hpos
    -- the next number is at most the page count, so it can be asked for
    have hfits : number.toNat + 1 < UInt32.size := by
      rw [UInt32.size]
      omega
    have hnextNumber : (UInt32.ofNat (number.toNat + 1)).toNat = number.toNat + 1 :=
      UInt32.toNat_ofNat_of_lt hfits
    have hnext : page.nextPage = some (UInt32.ofNat (number.toNat + 1)).toNat := by
      rw [nextPage_eq, hnumber, hsize, htotal, if_pos (by omega), hnextNumber]
    obtain ⟨pages, hwalk, hnumbers, hpages⟩ :=
      ih (UInt32.ofNat (number.toNat + 1)) (by omega) (by omega)
    refine ⟨page :: pages, .more hpage hnext hwalk, ?_, ?_⟩
    · rw [List.map_cons, hnumber, hnumbers, hnextNumber]
      exact List.range'_succ.symm
    · intro other hother
      rcases List.mem_cons.1 hother with rfl | hrest
      · exact ⟨hsize, htotal⟩
      · exact hpages other hrest

end

/-! ## Services -/

/-- Whether a service, behind a front of its URLs, answers a query that carries one start with an
answer that begins there, and every query with the number of all matches. -/
structure Echoes (front : String) (service : String → Json) (total : Nat) : Prop where
  start : ∀ query start, Query.sentUnder "start" query = [toString start] →
    start < 0x10000000000000000 → countIn "start" (service (front ++ query)) = some start
  found : ∀ query, countIn "found" (service (front ++ query)) = some total

/-- An answer without hits that gives the number of all matches and where it begins. -/
def answer (found start : Json) : Json :=
  .object [("hits", .object [("found", found), ("start", start)])]

theorem countIn_answer (found start : Json) :
    countIn "found" (answer found start) = found.asNat? ∧
      countIn "start" (answer found start) = start.asNat? := by
  simp [countIn, answer, Json.member?, Entries.find?, List.lookup_cons]

theorem asNat?_whole {n : Nat} (h : n < 0x10000000000000000) : (Json.whole n).asNat? = some n := by
  have hrange : 0 ≤ (n : Int) ∧ (n : Int) < 0x10000000000000000 := by omega
  rw [Json.whole, Json.asNat?, JsonNumber.toNat?, if_pos hrange, Int.toNat_natCast]

/-- The service that reads, behind the front of a URL, where the query starts and gives it back. -/
def echo (front : String) (total : Nat) (url : String) : Json :=
  let query := String.ofList (url.toList.drop front.toList.length)
  answer (.whole total)
    (.whole (Digits.toNat ((Query.sentUnder "start" query).headD "0").toList : Nat))

/-- The echo echoes, whatever the number of matches is within 64 bits. -/
theorem echoes_echo (front : String) {total : Nat} (h : total < 0x10000000000000000) :
    Echoes front (echo front total) total where
  start := by
    intro query start hsent hlt
    have hquery : String.ofList ((front ++ query).toList.drop front.toList.length) = query := by
      rw [String.toList_append, List.drop_left, String.ofList_toList]
    have hread : Digits.toNat (toString start).toList = start :=
      (congrArg Digits.toNat Nat.toList_repr).trans (Digits.toNat_toDigits start)
    rw [echo, (countIn_answer _ _).2, hquery, hsent, List.headD_cons, hread, asNat?_whole hlt]
  found := by
    intro query
    rw [echo, (countIn_answer _ _).1, asNat?_whole h]

/-- The page that is read from a service's answer to the URL of a search. -/
def fetch (service : String → Json) (host : String) (version : ApiVersion) (term : String)
    (options : SearchOptions) (key : Option String) : Except PageError Page :=
  ofResponse (service (Query.searchUrl host version term options))
    (options.pageSizeInForce version) key

/-- An answer that begins where a search for a page starts is read as that page. -/
theorem ofResponse_atPage (version : ApiVersion) (options : SearchOptions) (number : UInt32)
    (key : Option String) {body : Json}
    (hstart : countIn "start" body =
      some ((max number.toNat 1 - 1) * Query.intendedSize version options)) :
    ∃ page, ofResponse body (options.pageSizeInForce version) key = .ok page ∧
      page.pageSize = Query.intendedSize version options ∧
      page.currentPage = max number.toNat 1 ∧
      page.offset = (max number.toNat 1 - 1) * Query.intendedSize version options ∧
      page.totalEntries = (countIn "found" body).getD 0 := by
  have hlt : number.toNat < 0x100000000 := number.toNat_lt
  rw [← Query.pageSizeInForce_eq] at hstart ⊢
  obtain ⟨page, hpage, hsize, hnumber, hfound⟩ := ofResponse_of_countIn key
    (SearchOptions.pageSizeInForce_pos version options) (by omega) hstart
  refine ⟨page, hpage, hsize, by omega, ?_, hfound⟩
  rw [offset, hnumber, hsize, Nat.add_sub_cancel]

section

variable {version : ApiVersion} {options : SearchOptions}
  (hcursor : options.cursorInForce version = none)
  (hfields : ∀ name ∈ options.returnFields, Query.StandForThemselves name.toList)

include hcursor hfields

/-- A service that echoes the start gives the page that is asked for. -/
theorem fetch_atPage (host term : String) (key : Option String) {service : String → Json}
    {total : Nat} (hservice : Echoes (host ++ "/" ++ version.text ++ "/search?") service total)
    (number : UInt32) (hpos : 0 < number.toNat) :
    ∃ page, fetch service host version term (options.atPage number) key = .ok page ∧
      page.currentPage = number.toNat ∧ page.pageSize = Query.intendedSize version options ∧
      page.totalEntries = total := by
  have hasks := SearchOptions.asksFor_atPage hcursor hfields term number
  have hstart := hservice.start _ _ hasks.start_sent hasks.start_lt
  obtain ⟨page, hpage, hsize, hnumber, -, htotal⟩ :=
    ofResponse_atPage version options number key hstart
  refine ⟨page, hpage, by omega, hsize, ?_⟩
  rw [htotal, hservice.found, Option.getD_some]

end

/-! ## Requests and pages -/

/-- With no cursor sent and return fields that mean themselves in a query, the URL of a search for
any page with any page size carries one size and one start, and an answer that begins at this start
is read as the page with that number, size and offset. From a service that echoes the start of a URL
and gives the number of all matches, a walk from the first page ends, in one way, goes through the
page numbers in order, and has each match in just one window. -/
theorem walk_covers_once (host : String) (version : ApiVersion) (term : String)
    (options : SearchOptions) (key : Option String)
    (hcursor : options.cursorInForce version = none)
    (hfields : ∀ name ∈ options.returnFields, Query.StandForThemselves name.toList) :
    (∀ number : UInt32, ∃ query size start,
      Query.searchUrl host version term (options.atPage number) =
        host ++ "/" ++ version.text ++ "/search?" ++ query ∧
      Query.AsksFor query size start ∧ size = Query.intendedSize version options ∧
      start = (max number.toNat 1 - 1) * size ∧
      ∀ body, countIn "start" body = some start →
        ∃ page, ofResponse body (options.pageSizeInForce version) key = .ok page ∧
          page.pageSize = size ∧ page.currentPage = max number.toNat 1 ∧ page.offset = start) ∧
    ∀ service total, Echoes (host ++ "/" ++ version.text ++ "/search?") service total →
      pageCount total (Query.intendedSize version options) < 0x100000000 →
      ∃ pages,
        Walk (fun number => fetch service host version term (options.atPage number) key) 1 pages ∧
        (∀ others,
          Walk (fun number => fetch service host version term (options.atPage number) key) 1
            others → others = pages) ∧
        (∀ page ∈ pages, page.pageSize = Query.intendedSize version options ∧
          page.totalPages = pageCount total (Query.intendedSize version options)) ∧
        pages.map Page.currentPage =
          List.range' 1 (pageCount total (Query.intendedSize version options)) ∧
        CoverOnce pages total := by
  constructor
  · intro number
    refine ⟨Query.queryString version term (options.atPage number), _, _, rfl,
      SearchOptions.asksFor_atPage hcursor hfields term number, rfl, rfl, ?_⟩
    intro body hbody
    obtain ⟨page, hpage, hsize, hnumber, hoffset, -⟩ :=
      ofResponse_atPage version options number key hbody
    exact ⟨page, hpage, hsize, hnumber, hoffset⟩
  · intro service total hservice hcount
    have hpos : 0 < Query.intendedSize version options := by
      rw [← Query.pageSizeInForce_eq]
      exact SearchOptions.pageSizeInForce_pos version options
    have hone : 1 ≤ pageCount total (Query.intendedSize version options) := Nat.le_max_right _ _
    obtain ⟨pages, hwalk, hnumbers, hpages⟩ :=
      exists_walk (fetch_atPage hcursor hfields host term key hservice) hcount
        (pageCount total (Query.intendedSize version options) - 1) 1 (by decide)
        (Nat.add_sub_cancel' hone)
    have hsizes : ∀ page ∈ pages, page.pageSize = Query.intendedSize version options :=
      fun page hpage => (hpages page hpage).1
    rw [Nat.sub_add_cancel hone] at hnumbers
    refine ⟨pages, hwalk, fun others => hwalk.unique, ?_, hnumbers,
      coverOnce_of_numbers hnumbers hsizes hpos (le_pageCount_mul total hpos)⟩
    intro page hpage
    obtain ⟨hsize, htotal⟩ := hpages page hpage
    refine ⟨hsize, ?_⟩
    rw [← hsize, ← htotal]
    rfl

/-- Twenty-five matches on pages of ten, asked for with their titles: the third page begins at the
twentieth match, and a walk sees three pages. -/
theorem walk_covers_once_of_echo :
    (∃ query, Query.searchUrl "http://host" .legacy "a"
        (SearchOptions.atPage { returnFields := ["title"] } 3) =
          "http://host" ++ "/" ++ "2011-02-01" ++ "/search?" ++ query ∧
      Query.AsksFor query 10 20 ∧
      ∃ page, ofResponse (answer (.whole 25) (.whole 20)) 10 (some "data") = .ok page ∧
        page.currentPage = 3 ∧ page.offset = 20) ∧
    ∃ pages,
      Walk (fun number => fetch (echo "http://host/2011-02-01/search?" 25) "http://host" .legacy
        "a" (SearchOptions.atPage { returnFields := ["title"] } number) (some "data")) 1 pages ∧
      pages.map Page.currentPage = [1, 2, 3] := by
  have hfields : ∀ name ∈ ["title"], Query.StandForThemselves name.toList := by
    intro name hname
    rw [List.mem_singleton.1 hname]
    exact ⟨by decide, by decide, by decide⟩
  obtain ⟨hrequests, hwalks⟩ := walk_covers_once "http://host" .legacy "a"
    { returnFields := ["title"] } (some "data") rfl hfields
  constructor
  · obtain ⟨query, size, start, hurl, hasks, rfl, rfl, hread⟩ := hrequests 3
    have hstart : countIn "start" (answer (.whole 25) (.whole 20)) = some 20 :=
      (countIn_answer _ _).2
    obtain ⟨page, hpage, -, hnumber, hoffset⟩ := hread _ hstart
    exact ⟨query, hurl, hasks, page, hpage, hnumber, hoffset⟩
  · have hfront : "http://host/2011-02-01/search?" =
        "http://host" ++ "/" ++ ApiVersion.legacy.text ++ "/search?" := by decide
    have hservice : Echoes ("http://host" ++ "/" ++ ApiVersion.legacy.text ++ "/search?")
        (echo "http://host/2011-02-01/search?" 25) 25 := by
      rw [← hfront]
      exact echoes_echo _ (by decide)
    obtain ⟨pages, hwalk, -, -, hnumbers, -⟩ := hwalks _ 25 hservice (by decide)
    exact ⟨pages, hwalk, hnumbers⟩

end Page

end SearchDomain
