/-
  SearchDomain.Proofs.Page.Place

  The place of a page among all matches. An answer may begin anywhere, at a
  multiple of the page size or between two: the page that is read from it is the
  one whose window holds the first hit. Main statement: every page that is read
  has its window around the start of its answer, as many pages beside it as the
  matches need, and a page in front of it and behind it just when there are
  matches there.
-/
import Mathlib.Order.Bounds.Defs
import SearchDomain.Proofs.Page.Words

namespace SearchDomain.Page

/-! ## How many pages there are -/

/-- Some pages are enough for all matches from the number of pages on. -/
theorem pageCount_le_iff (total : Nat) {size count : Nat} (hsize : 0 < size)
    (hcount : 1 ≤ count) : pageCount total size ≤ count ↔ total ≤ count * size := by
  constructor
  · intro h
    calc total
      _ ≤ pageCount total size * size := le_pageCount_mul total hsize
      _ ≤ count * size := Nat.mul_le_mul_right _ h
  · intro h
    have hlt : total + size - 1 < (count + 1) * size := by
      rw [Nat.add_mul, Nat.one_mul]
      omega
    have hdiv : (total + size - 1) / size < count + 1 := (Nat.div_lt_iff_lt_mul hsize).2 hlt
    rw [pageCount]
    omega

theorem isLeast_pageCount (total : Nat) {size : Nat} (hsize : 0 < size) :
    IsLeast {count | 1 ≤ count ∧ total ≤ count * size} (pageCount total size) := by
  refine ⟨⟨Nat.le_max_right _ _, le_pageCount_mul total hsize⟩, ?_⟩
  rintro count ⟨hcount, htotal⟩
  exact (pageCount_le_iff total hsize hcount).2 htotal

/-! ## Places -/

/-- Whether what a page tells of its place fits together, for an answer that begins at `start`. -/
structure HasPlace (page : Page) (start : Nat) : Prop where
  pageSize_pos : 1 ≤ page.pageSize
  currentPage_pos : 1 ≤ page.currentPage
  offset_le : page.offset ≤ start
  start_lt : start < page.offset + page.pageSize
  totalPages : IsLeast {count | 1 ≤ count ∧ page.totalEntries ≤ count * page.pageSize}
    page.totalPages
  isSome_nextPage : page.nextPage.isSome ↔ page.offset + page.pageSize < page.totalEntries
  nextPage : ∀ number, page.nextPage = some number →
    number = page.currentPage + 1 ∧ number ≤ page.totalPages
  isSome_previousPage : page.previousPage.isSome ↔ 0 < page.offset
  previousPage : ∀ number, page.previousPage = some number →
    number + 1 = page.currentPage ∧ 1 ≤ number

section

variable {page : Page}

/-- The window of a page ends behind as many pages as its number says. -/
theorem offset_add_pageSize (hnumber : 1 ≤ page.currentPage) :
    page.offset + page.pageSize = page.currentPage * page.pageSize := by
  calc page.offset + page.pageSize
    _ = (page.currentPage - 1) * page.pageSize + 1 * page.pageSize := by
      rw [offset, Nat.one_mul]
    _ = page.currentPage * page.pageSize := by
      rw [← Nat.add_mul, Nat.sub_add_cancel hnumber]

theorem offset_pos_iff (hsize : 1 ≤ page.pageSize) : 0 < page.offset ↔ 1 < page.currentPage := by
  rw [offset, Nat.mul_pos_iff_of_pos_right hsize]
  omega

theorem isSome_nextPage_iff (hsize : 1 ≤ page.pageSize) (hnumber : 1 ≤ page.currentPage) :
    page.nextPage.isSome ↔ page.offset + page.pageSize < page.totalEntries := by
  have hcount : page.totalPages ≤ page.currentPage ↔
      page.totalEntries ≤ page.currentPage * page.pageSize :=
    pageCount_le_iff page.totalEntries hsize hnumber
  have hsome : page.nextPage.isSome ↔ page.currentPage < page.totalPages := by
    rw [nextPage]
    by_cases h : page.currentPage < page.totalPages <;> simp [h]
  -- there is no next page exactly when the pages up to this one have room for all matches
  rw [hsome, offset_add_pageSize hnumber]
  omega

theorem isSome_previousPage_iff (hsize : 1 ≤ page.pageSize) :
    page.previousPage.isSome ↔ 0 < page.offset := by
  rw [offset_pos_iff hsize, previousPage]
  by_cases h : 1 < page.currentPage <;> simp [h]

/-- A page whose number is that of the window around a start has its place there. -/
theorem hasPlace_of_currentPage {start : Nat} (hsize : 1 ≤ page.pageSize)
    (hnumber : page.currentPage = start / page.pageSize + 1) : page.HasPlace start := by
  have hpos : 1 ≤ page.currentPage := by
    rw [hnumber]
    exact Nat.le_add_left 1 _
  have hoffset : page.offset = start / page.pageSize * page.pageSize := by
    rw [offset, hnumber, Nat.add_sub_cancel]
  refine ⟨hsize, hpos, ?_, ?_, isLeast_pageCount page.totalEntries hsize,
    isSome_nextPage_iff hsize hpos, ?_, isSome_previousPage_iff hsize, ?_⟩
  · rw [hoffset]
    exact Nat.div_mul_le_self start page.pageSize
  · rw [hoffset]
    exact Nat.lt_div_mul_add hsize
  · intro number h
    rw [nextPage, Option.ite_none_right_eq_some, Option.some.injEq] at h
    omega
  · intro number h
    rw [previousPage, Option.ite_none_right_eq_some, Option.some.injEq] at h
    omega

end

/-! ## Pages that are read -/

variable {body : Json} {size : UInt32} {key : Option String} {page : Page}

/-- A page is read from an answer with hits only. -/
theorem exists_hits_of_ofResponse (h : ofResponse body size key = .ok page) :
    ∃ members, (body.member? "hits").bind Json.asObject? = some members := by
  cases hhits : (body.member? "hits").bind Json.asObject? with
  | none =>
    rw [ofResponse_of_noHits size key hhits] at h
    cases h
  | some members => exact ⟨members, rfl⟩

/-- A page keeps the size it is read with, and the number of the window that holds the start. -/
theorem numbers_of_ofResponse (h : ofResponse body size key = .ok page) :
    page.pageSize = max size.toNat 1 ∧
      page.currentPage = (countIn "start" body).getD 0 / max size.toNat 1 + 1 := by
  obtain ⟨members, hhits⟩ := exists_hits_of_ofResponse h
  rcases ofResponse_of_hits size key hhits with
    ⟨-, hover⟩ | ⟨-, other, hother, -, hsize, hnumber⟩
  · rw [h] at hover
    cases hover
  · rw [h] at hother
    cases hother
    exact ⟨hsize, hnumber⟩

theorem exists_tell_of_ofResponse (h : ofResponse body size key = .ok page) :
    ∃ words, wordsOfResponse? body size = some words ∧ words.Tell page := by
  obtain ⟨members, hhits⟩ := exists_hits_of_ofResponse h
  rcases ofResponse_cases size key hhits with ⟨-, hover⟩ | ⟨words, other, hwords, hother, htell⟩
  · rw [h] at hover
    cases hover
  · rw [h] at hother
    cases hother
    exact ⟨words, hwords, htell⟩

/-- Every page that is read has its place around the start of its answer, where no number among the
hits counts as zero, and the checked operations on words of 64 bits give all that it tells. -/
theorem hasPlace_of_ofResponse (body : Json) (size : UInt32) (key : Option String) {page : Page}
    (h : ofResponse body size key = .ok page) :
    page.HasPlace ((countIn "start" body).getD 0) ∧
      ∃ words, wordsOfResponse? body size = some words ∧ words.Tell page := by
  obtain ⟨hsize, hnumber⟩ := numbers_of_ofResponse h
  rw [← hsize] at hnumber
  have hpos : 1 ≤ page.pageSize := by
    rw [hsize]
    exact Nat.le_max_right _ _
  exact ⟨hasPlace_of_currentPage hpos hnumber, exists_tell_of_ofResponse h⟩

/-- An answer of 95 matches that begins at the 48th is the third page of twenty, of five. -/
theorem hasPlace_of_ofResponse_between :
    ∃ page, ofResponse (answer (.whole 95) (.whole 47)) 20 none = .ok page ∧
      page.HasPlace 47 ∧ page.offset = 40 ∧ page.totalPages = 5 ∧ page.nextPage = some 4 ∧
      page.previousPage = some 2 := by
  have hplace := (hasPlace_of_ofResponse (answer (.whole 95) (.whole 47)) 20 none rfl).1
  exact ⟨_, rfl, hplace, rfl, rfl, rfl, rfl⟩

end SearchDomain.Page
