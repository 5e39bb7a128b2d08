/-
  SearchDomain.Proofs.Page.Words

  The numbers of a page in words of 64 bits. The page number is reckoned from
  where an answer begins, and everything else that a page tells of its place from
  the numbers it keeps. Main statement: only an answer that begins at the last
  word, read with one hit on a page, leaves no page; on every page the checked
  operations all give their results.
-/
import SearchDomain.Proofs.Number.Word
import SearchDomain.Proofs.Page.Walk

namespace SearchDomain

/-! ## Pages in words -/

open Word (Gives GivesOptional)

/-- The numbers that a page keeps. -/
structure PageWords where
  totalEntries : UInt64
  pageSize : UInt32
  currentPage : UInt64

namespace PageWords

/-- The numbers of the page whose answer begins at a word. -/
def read? (found start : UInt64) (size : UInt32) : Option PageWords := do
  let size := if size = 0 then 1 else size
  let before ← Word.div? start size.toUInt64
  let number ← Word.add? before 1
  return ⟨found, size, number⟩

variable (words : PageWords)

def totalPages? : Option UInt64 := do
  let pages ← Word.divUp? words.totalEntries words.pageSize.toUInt64
  return if pages.toNat < 1 then 1 else pages

def offset? : Option UInt64 := do
  let before ← Word.sub? words.currentPage 1
  Word.mul? before words.pageSize.toUInt64

def previousPage? : Option (Option UInt64) :=
  if 1 < words.currentPage.toNat then (Word.sub? words.currentPage 1).map some else some none

def nextPage? : Option (Option UInt64) := do
  let last ← words.totalPages?
  if words.currentPage.toNat < last.toNat then (Word.add? words.currentPage 1).map some
  else return none

end PageWords

/-- Whether a page is kept in words, and the checked operations on these give all that it tells of
its place. -/
structure PageWords.Tell (words : PageWords) (page : Page) : Prop where
  totalEntries : words.totalEntries.toNat = page.totalEntries
  pageSize : words.pageSize.toNat = page.pageSize
  currentPage : words.currentPage.toNat = page.currentPage
  totalPages : Gives words.totalPages? page.totalPages
  offset : Gives words.offset? page.offset
  previousPage : GivesOptional words.previousPage? page.previousPage
  nextPage : GivesOptional words.nextPage? page.nextPage

namespace PageWords

/-! ## Reading -/

/-- The page size that is read with. -/
theorem toNat_sizeInForce (size : UInt32) :
    (if size = 0 then (1 : UInt32) else size).toNat = max size.toNat 1 := by
  by_cases hsize : size = 0
  · rw [if_pos hsize, hsize]
    rfl
  · have hne : size.toNat ≠ 0 := fun h => hsize (UInt32.toNat_inj.1 h)
    rw [if_neg hsize]
    omega

/-- The page number overflows only behind the last word, with one hit on a page. -/
theorem read?_cases (found start : UInt64) (size : UInt32) :
    (read? found start size = none ∧ size.toNat ≤ 1 ∧ start.toNat = 0xFFFFFFFFFFFFFFFF) ∨
    (¬(size.toNat ≤ 1 ∧ start.toNat = 0xFFFFFFFFFFFFFFFF) ∧
      ∃ words, read? found start size = some words ∧ words.totalEntries = found ∧
        words.pageSize.toNat = max size.toNat 1 ∧
        words.currentPage.toNat = start.toNat / max size.toNat 1 + 1) := by
  have hsize := toNat_sizeInForce size
  have hwide : (if size = 0 then (1 : UInt32) else size).toUInt64.toNat = max size.toNat 1 := by
    rw [UInt32.toNat_toUInt64, hsize]
  obtain ⟨before, hbefore, hquotient⟩ : Gives
      (Word.div? start (if size = 0 then (1 : UInt32) else size).toUInt64)
      (start.toNat / max size.toNat 1) := by
    rw [← hwide]
    exact Word.div?_gives (by omega)
  have hstart : start.toNat < 0x10000000000000000 := start.toNat_lt
  -- only the division by one leaves the last word as it is
  have hlast : before.toNat = 0xFFFFFFFFFFFFFFFF ↔
      size.toNat ≤ 1 ∧ start.toNat = 0xFFFFFFFFFFFFFFFF := by
    rw [hquotient]
    by_cases hone : size.toNat ≤ 1
    · have hmax : max size.toNat 1 = 1 := by omega
      rw [hmax, Nat.div_one]
      exact ⟨fun h => ⟨hone, h⟩, fun h => h.2⟩
    · have htwo : 2 ≤ max size.toNat 1 := by omega
      have hhalf : start.toNat / max size.toNat 1 ≤ start.toNat / 2 :=
        Nat.div_le_div_left htwo (by decide)
      omega
  by_cases hfull : before.toNat = 0xFFFFFFFFFFFFFFFF
  · refine .inl ⟨?_, hlast.1 hfull⟩
    simp only [read?, hbefore, Option.bind_eq_bind, Option.bind_some,
      Word.add?_one_eq_none_iff.2 hfull, Option.bind_none]
  · have hlt : before.toNat < 0x10000000000000000 := before.toNat_lt
    have hone : (1 : UInt64).toNat = 1 := rfl
    obtain ⟨number, hnumber, hvalue⟩ := Word.add?_gives (a := before) (b := 1) (by omega)
    refine .inr ⟨fun h => hfull (hlast.2 h), ⟨found, _, number⟩, ?_, rfl, hsize, ?_⟩
    · simp only [read?, hbefore, hnumber, Option.bind_eq_bind, Option.bind_some]
      rfl
    · rw [hvalue, hquotient, hone]

/-! ## What a page tells -/

variable {words : PageWords}

theorem totalPages?_gives (words : PageWords) (hsize : 0 < words.pageSize.toNat) :
    Gives words.totalPages? (Page.pageCount words.totalEntries.toNat words.pageSize.toNat) := by
  have hwide : words.pageSize.toUInt64.toNat = words.pageSize.toNat := UInt32.toNat_toUInt64 _
  have hone : (1 : UInt64).toNat = 1 := rfl
  obtain ⟨pages, hpages, hvalue⟩ :=
    Word.divUp?_gives (a := words.totalEntries) (b := words.pageSize.toUInt64) (by omega)
  rw [hwide] at hvalue
  rw [totalPages?, hpages, Page.pageCount, ← hvalue]
  refine ⟨if pages.toNat < 1 then 1 else pages, rfl, ?_⟩
  by_cases hzero : pages.toNat < 1
  · rw [if_pos hzero, hone]
    omega
  · rw [if_neg hzero]
    omega

/-- A page that is kept in words has its place told without overflow, if it begins within them. -/
theorem tell_of_read {page : Page} (hentries : words.totalEntries.toNat = page.totalEntries)
    (hsize : words.pageSize.toNat = page.pageSize)
    (hnumber : words.currentPage.toNat = page.currentPage) (hpos : 0 < page.pageSize)
    (hfirst : 1 ≤ page.currentPage) (hoffset : page.offset < 0x10000000000000000) :
    words.Tell page := by
  have hwide : words.pageSize.toUInt64.toNat = page.pageSize := by
    rw [UInt32.toNat_toUInt64, hsize]
  have hone : (1 : UInt64).toNat = 1 := rfl
  obtain ⟨before, hbefore, hpred⟩ :=
    Word.sub?_gives (a := words.currentPage) (b := 1) (by omega)
  rw [hone, hnumber] at hpred
  have htotal : Gives words.totalPages? page.totalPages := by
    have hgives := totalPages?_gives words (by omega)
    rw [hentries, hsize] at hgives
    exact hgives
  refine ⟨hentries, hsize, hnumber, htotal, ?_, ?_, ?_⟩
  · have hproduct : before.toNat * words.pageSize.toUInt64.toNat = page.offset := by
      rw [hpred, hwide, Page.offset]
    rw [offset?, hbefore, ← hproduct]
    exact Word.mul?_gives (by omega)
  · rw [previousPage?, Page.previousPage, hnumber, hbefore]
    by_cases hlater : 1 < page.currentPage
    · rw [if_pos hlater, if_pos hlater]
      exact ⟨some before, rfl, congrArg some hpred⟩
    · rw [if_neg hlater, if_neg hlater]
      exact ⟨none, rfl, rfl⟩
  · obtain ⟨last, hlast, hcount⟩ := htotal
    have hlt : last.toNat < 0x10000000000000000 := last.toNat_lt
    rw [nextPage?, hlast, Page.nextPage]
    simp only [Option.bind_eq_bind, Option.bind_some]
    rw [hnumber, hcount]
    by_cases hmore : page.currentPage < page.totalPages
    · -- the next page is at most the last one, which is a word
      obtain ⟨next, hnext, hvalue⟩ :=
        Word.add?_gives (a := words.currentPage) (b := 1) (by omega)
      rw [hone, hnumber] at hvalue
      rw [if_pos hmore, if_pos hmore, hnext]
      exact ⟨some next, rfl, congrArg some hvalue⟩
    · rw [if_neg hmore, if_neg hmore]
      exact ⟨none, rfl, rfl⟩

end PageWords

/-! ## Answers -/

/-- Whether a body is an object with an object under `hits`. -/
def Json.HasHits (body : Json) : Prop :=
  ∃ members hits, body = .object members ∧ Entries.find? members "hits" = some (.object hits)

theorem Json.hasHits_iff (body : Json) :
    body.HasHits ↔ ∃ hits, (body.member? "hits").bind Json.asObject? = some hits := by
  constructor
  · rintro ⟨members, hits, rfl, hfind⟩
    refine ⟨hits, ?_⟩
    rw [member?, hfind]
    rfl
  · rintro ⟨hits, h⟩
    obtain ⟨value, hmember, hobject⟩ := Option.bind_eq_some_iff.1 h
    cases body with
    | object members =>
      cases value with
      | object found => exact ⟨members, found, rfl, hmember⟩
      | null | bool | number | string | array => cases hobject
    | null | bool | number | string | array => cases hmember

namespace Page

/-- The word that an answer gives under a name among its hits; zero if it gives none. -/
def wordIn (name : String) (body : Json) : UInt64 :=
  UInt64.ofNat ((countIn name body).getD 0)

theorem asNat?_lt {json : Json} {n : Nat} (h : json.asNat? = some n) :
    n < 0x10000000000000000 := by
  cases json with
  | number number =>
    cases number with
    | whole m =>
      rw [Json.asNat?, JsonNumber.toNat?] at h
      split at h
      · next hrange =>
        rw [Option.some.injEq] at h
        omega
      · cases h
    | real x => cases h
  | null | bool | string | array | object => cases h

theorem toNat_wordIn (name : String) (body : Json) :
    (wordIn name body).toNat = (countIn name body).getD 0 := by
  refine UInt64.toNat_ofNat_of_lt ?_
  cases hcount : countIn name body with
  | none => decide
  | some n =>
    obtain ⟨json, -, hjson⟩ := Option.bind_eq_some_iff.1 hcount
    exact asNat?_lt hjson

/-- The numbers of a page, from the body of an answer that has hits. -/
def wordsOfResponse? (body : Json) (size : UInt32) : Option PageWords :=
  PageWords.read? (wordIn "found" body) (wordIn "start" body) size

/-- Where an answer begins at the last word. -/
theorem toNat_wordIn_eq_last_iff (body : Json) :
    (wordIn "start" body).toNat = 0xFFFFFFFFFFFFFFFF ↔
      countIn "start" body = some 0xFFFFFFFFFFFFFFFF := by
  rw [toNat_wordIn]
  cases countIn "start" body with
  | none => exact ⟨nofun, nofun⟩
  | some n => rw [Option.getD_some, Option.some.injEq]

theorem countIn_of_noHits {body : Json} (h : (body.member? "hits").bind Json.asObject? = none)
    (name : String) : countIn name body = none := by
  rw [countIn]
  cases hhits : body.member? "hits" with
  | none => rfl
  | some hits =>
    rw [hhits, Option.bind_some] at h
    cases hits with
    | object members => cases h
    | null | bool | number | string | array => rfl

theorem ofResponse_of_noHits {body : Json} (size : UInt32) (key : Option String)
    (h : (body.member? "hits").bind Json.asObject? = none) :
    ofResponse body size key = .error .noHits := by
  rw [ofResponse, h]

/-- An answer with hits is read by the page number alone. -/
theorem ofResponse_of_hits {body : Json} {members : Entries Json} (size : UInt32)
    (key : Option String) (h : (body.member? "hits").bind Json.asObject? = some members) :
    (0x10000000000000000 ≤ (countIn "start" body).getD 0 / max size.toNat 1 + 1 ∧
      ofResponse body size key = .error .pageOverflow) ∨
    ((countIn "start" body).getD 0 / max size.toNat 1 + 1 < 0x10000000000000000 ∧
      ∃ page, ofResponse body size key = .ok page ∧
        page.totalEntries = (countIn "found" body).getD 0 ∧
        page.pageSize = max size.toNat 1 ∧
        page.currentPage = (countIn "start" body).getD 0 / max size.toNat 1 + 1) := by
  obtain ⟨hits, hhits, hobject⟩ := Option.bind_eq_some_iff.1 h
  have hmembers : hits = .object members := by
    cases hits with
    | object found =>
      rw [Json.asObject?, Option.some.injEq] at hobject
      rw [hobject]
    | null | bool | number | string | array => cases hobject
  have hcount : ∀ name, countIn name body =
      ((Json.object members).member? name).bind Json.asNat? := by
    intro name
    rw [countIn, hhits, Option.bind_some, hmembers]
  rw [ofResponse, h, hcount, hcount]
  simp only
  split
  · next hfits => exact .inr ⟨hfits, _, rfl, rfl, rfl, rfl⟩
  · next hfits => exact .inl ⟨Nat.le_of_not_lt hfits, rfl⟩

/-- The checked operations stop at the last word, while a page has one hit. -/
theorem wordsOfResponse?_eq_none_iff (body : Json) (size : UInt32) :
    wordsOfResponse? body size = none ↔
      size.toNat ≤ 1 ∧ countIn "start" body = some 0xFFFFFFFFFFFFFFFF := by
  rw [← toNat_wordIn_eq_last_iff, wordsOfResponse?]
  rcases PageWords.read?_cases (wordIn "found" body) (wordIn "start" body) size with
    ⟨hnone, hlast⟩ | ⟨hlast, words, hwords, -⟩
  · exact ⟨fun _ => hlast, fun _ => hnone⟩
  · rw [hwords]
    exact ⟨nofun, fun h => absurd h hlast⟩

/-- An answer with hits gives a page just when the checked operations give its numbers, and then
they give all that the page tells. -/
theorem ofResponse_cases {body : Json} {members : Entries Json} (size : UInt32)
    (key : Option String) (h : (body.member? "hits").bind Json.asObject? = some members) :
    (wordsOfResponse? body size = none ∧ ofResponse body size key = .error .pageOverflow) ∨
    ∃ words page, wordsOfResponse? body size = some words ∧
      ofResponse body size key = .ok page ∧ words.Tell page := by
  have hstart := toNat_wordIn "start" body
  have hlt : (wordIn "start" body).toNat < 0x10000000000000000 := (wordIn "start" body).toNat_lt
  have hle : (wordIn "start" body).toNat / max size.toNat 1 * max size.toNat 1 ≤
      (wordIn "start" body).toNat := Nat.div_mul_le_self _ _
  rcases ofResponse_of_hits size key h with
    ⟨hover, hresult⟩ | ⟨hfits, page, hpage, hentries, hpageSize, hnumber⟩
  · rw [← hstart] at hover
    rcases PageWords.read?_cases (wordIn "found" body) (wordIn "start" body) size with
      ⟨hnone, -⟩ | ⟨-, words, -, -, -, hword⟩
    · exact .inl ⟨hnone, hresult⟩
    · -- the page number is a word, so it cannot be beyond all words
      have hbound : words.currentPage.toNat < 0x10000000000000000 := words.currentPage.toNat_lt
      omega
  · rw [← hstart] at hfits hnumber
    rcases PageWords.read?_cases (wordIn "found" body) (wordIn "start" body) size with
      ⟨-, hone, hlast⟩ | ⟨-, words, hwords, hfound, hwordSize, hword⟩
    · have hmax : max size.toNat 1 = 1 := by omega
      rw [hmax, Nat.div_one] at hfits
      omega
    · refine .inr ⟨words, page, hwords, hpage, PageWords.tell_of_read ?_ ?_ ?_ ?_ ?_ ?_⟩
      · rw [hfound, toNat_wordIn, hentries]
      · rw [hwordSize, hpageSize]
      · rw [hword, hnumber]
      · rw [hpageSize]
        omega
      · rw [hnumber]
        exact Nat.le_add_left 1 _
      · rw [offset, hnumber, hpageSize, Nat.add_sub_cancel]
        exact Nat.lt_of_le_of_lt hle hlt

/-- A body has no hits, or begins at the last word while a page has one hit, or gives a page. -/
theorem ofResponse_trichotomy (body : Json) (size : UInt32) (key : Option String) :
    (¬body.HasHits ∧ ofResponse body size key = .error .noHits) ∨
    (body.HasHits ∧ (size.toNat ≤ 1 ∧ countIn "start" body = some 0xFFFFFFFFFFFFFFFF) ∧
      ofResponse body size key = .error .pageOverflow) ∨
    (body.HasHits ∧ ¬(size.toNat ≤ 1 ∧ countIn "start" body = some 0xFFFFFFFFFFFFFFFF) ∧
      ∃ page, ofResponse body size key = .ok page) := by
  rw [Json.hasHits_iff, ← wordsOfResponse?_eq_none_iff]
  cases hhits : (body.member? "hits").bind Json.asObject? with
  | none => exact .inl ⟨by simp, ofResponse_of_noHits size key hhits⟩
  | some members =>
    have hsome : ∃ hits, some members = some hits := ⟨members, rfl⟩
    rcases ofResponse_cases size key hhits with
      ⟨hnone, hresult⟩ | ⟨words, page, hwords, hpage, -⟩
    · exact .inr (.inl ⟨hsome, hnone, hresult⟩)
    · refine .inr (.inr ⟨hsome, ?_, page, hpage⟩)
      rw [hwords]
      exact nofun

/-- Every answer is read, or has no hits, or begins at the last word while a page has one hit; the
checked operations stop in that last case alone. On the page that is read they give all numbers. -/
theorem arithmetic_in_words (body : Json) (size : UInt32) (key : Option String) :
    (ofResponse body size key = .error .noHits ↔
      (body.member? "hits").bind Json.asObject? = none) ∧
    (ofResponse body size key = .error .pageOverflow ↔
      size.toNat ≤ 1 ∧ countIn "start" body = some 0xFFFFFFFFFFFFFFFF) ∧
    (wordsOfResponse? body size = none ↔
      size.toNat ≤ 1 ∧ countIn "start" body = some 0xFFFFFFFFFFFFFFFF) ∧
    ∀ page, ofResponse body size key = .ok page →
      ∃ words, wordsOfResponse? body size = some words ∧ words.Tell page := by
  have hstop := wordsOfResponse?_eq_none_iff body size
  cases hhits : (body.member? "hits").bind Json.asObject? with
  | none =>
    rw [ofResponse_of_noHits size key hhits]
    have hnoStart := countIn_of_noHits hhits "start"
    exact ⟨by simp, by simp [hnoStart], hstop, nofun⟩
  | some members =>
    rcases ofResponse_cases size key hhits with
      ⟨hnone, hresult⟩ | ⟨words, page, hwords, hpage, htell⟩
    · rw [hresult]
      exact ⟨by simp, by simpa using hstop.1 hnone, hstop, nofun⟩
    · have hgoesOn : ¬(size.toNat ≤ 1 ∧ countIn "start" body = some 0xFFFFFFFFFFFFFFFF) := by
        rw [← hstop, hwords]
        exact nofun
      rw [hpage]
      refine ⟨by simp, ⟨nofun, fun h => absurd h hgoesOn⟩, hstop, ?_⟩
      intro other hother
      cases hother
      exact ⟨words, hwords, htell⟩

/-- One before the last start, the page number is the last word, and no page is next. -/
theorem arithmetic_in_words_at_end :
    ∃ page words,
      ofResponse (answer (.whole 0xFFFFFFFFFFFFFFFF) (.whole 0xFFFFFFFFFFFFFFFE)) 0 none =
        .ok page ∧
      wordsOfResponse? (answer (.whole 0xFFFFFFFFFFFFFFFF) (.whole 0xFFFFFFFFFFFFFFFE)) 0 =
        some words ∧
      words.Tell page ∧ page.currentPage = 0xFFFFFFFFFFFFFFFF ∧ page.nextPage = none := by
  have hread := (arithmetic_in_words
    (answer (.whole 0xFFFFFFFFFFFFFFFF) (.whole 0xFFFFFFFFFFFFFFFE)) 0 none).2.2.2
  obtain ⟨words, hwords, htell⟩ := hread _ rfl
  exact ⟨_, words, rfl, hwords, htell, rfl, rfl⟩

/-- At the last start the page number does not fit, though the answer has hits. -/
theorem ofResponse_overflows_at_last :
    ofResponse (answer (.whole 0) (.whole 0xFFFFFFFFFFFFFFFF)) 1 none = .error .pageOverflow ∧
      Word.add? 0xFFFFFFFFFFFFFFFF 1 = none :=
  ⟨rfl, rfl⟩

end Page

end SearchDomain
