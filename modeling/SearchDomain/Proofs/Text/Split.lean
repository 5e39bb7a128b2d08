/-
  SearchDomain.Proofs.Text.Split

  Where a text is cut. A piece without the mark is found again in front of the
  mark, and pieces without the mark are found again between the marks.
-/
import SearchDomain.Text.Split

namespace SearchDomain.Text

/-! ## The first character of a class -/

/-- Whether a text is at its end or goes on with a character of a class. -/
def StopsAt (p : Char → Bool) (cs : List Char) : Prop :=
  ∀ c ∈ cs.head?, p c = true

@[simp] theorem stopsAt_nil (p : Char → Bool) : StopsAt p [] := by
  simp [StopsAt]

@[simp] theorem stopsAt_cons {p : Char → Bool} {c : Char} {cs : List Char} :
    StopsAt p (c :: cs) ↔ p c = true := by
  simp [StopsAt]

/-- A piece without characters of the class is what stands in front of the first such character. -/
theorem takeWhile_append_of_stopsAt {p : Char → Bool} {cs rest : List Char}
    (hcs : ∀ c ∈ cs, p c = false) (hrest : StopsAt p rest) :
    (cs ++ rest).takeWhile (fun c => !p c) = cs := by
  rw [List.takeWhile_append_of_pos (by simpa using hcs)]
  cases rest with
  | nil => simp
  | cons c rest => simp [stopsAt_cons.1 hrest]

/-- Two texts that are cut at their first character of a class agree piece by piece. -/
theorem append_inj_of_stopsAt {p : Char → Bool} {cs ds rest rest' : List Char}
    (hcs : ∀ c ∈ cs, p c = false) (hds : ∀ c ∈ ds, p c = false)
    (hrest : StopsAt p rest) (hrest' : StopsAt p rest')
    (h : cs ++ rest = ds ++ rest') : cs = ds ∧ rest = rest' := by
  have hfront := congrArg (List.takeWhile fun c => !p c) h
  rw [takeWhile_append_of_stopsAt hcs hrest, takeWhile_append_of_stopsAt hds hrest'] at hfront
  subst hfront
  exact ⟨rfl, List.append_cancel_left h⟩

/-! ## Pieces between marks -/

/-- A text without the mark is one piece. -/
theorem splitAtMark_of_not_mem {mark : Char} {piece : List Char} (h : mark ∉ piece) :
    splitAtMark mark piece = [piece] := by
  induction piece with
  | nil => rfl
  | cons c cs ih =>
    have hc := List.ne_of_not_mem_cons h
    rw [splitAtMark, if_neg hc.symm, ih (List.not_mem_of_not_mem_cons h)]

/-- The first piece ends at the first mark. -/
theorem splitAtMark_append_cons {mark : Char} {piece : List Char} (h : mark ∉ piece)
    (rest : List Char) :
    splitAtMark mark (piece ++ mark :: rest) = piece :: splitAtMark mark rest := by
  induction piece with
  | nil => rw [List.nil_append, splitAtMark, if_pos rfl]
  | cons c cs ih =>
    have hc := List.ne_of_not_mem_cons h
    rw [List.cons_append, splitAtMark, if_neg hc.symm, ih (List.not_mem_of_not_mem_cons h)]

/-- Pieces without the mark are found again between the marks. -/
theorem splitAtMark_intercalate {mark : Char} {pieces : List (List Char)} (hne : pieces ≠ [])
    (h : ∀ piece ∈ pieces, mark ∉ piece) :
    splitAtMark mark ([mark].intercalate pieces) = pieces := by
  induction pieces with
  | nil => exact absurd rfl hne
  | cons piece pieces ih =>
    have hpiece := h piece List.mem_cons_self
    cases pieces with
    | nil => rw [List.intercalate_singleton, splitAtMark_of_not_mem hpiece]
    | cons next pieces =>
      rw [List.intercalate_cons_cons, List.append_assoc, List.singleton_append,
        splitAtMark_append_cons hpiece,
        ih (List.cons_ne_nil _ _) fun p hp => h p (List.mem_cons_of_mem _ hp)]

/-- At a mark, the pieces in front of it and the pieces behind it meet. -/
theorem splitAtMark_append_mark (mark : Char) (cs ds : List Char) :
    splitAtMark mark (cs ++ mark :: ds) = splitAtMark mark cs ++ splitAtMark mark ds := by
  induction cs with
  | nil =>
    have hmark : splitAtMark mark (mark :: ds) = [] :: splitAtMark mark ds := by
      rw [splitAtMark, if_pos rfl]
    rw [List.nil_append, hmark]
    rfl
  | cons c cs ih =>
    rw [List.cons_append, splitAtMark, splitAtMark, ih]
    by_cases hc : c = mark
    · rw [if_pos hc, if_pos hc]
      rfl
    · rw [if_neg hc, if_neg hc]
      cases hpieces : splitAtMark mark cs with
      | nil => exact absurd hpieces (splitAtMark_ne_nil mark cs)
      | cons piece pieces => rfl

/-- The first piece is what stands in front of the first mark. -/
theorem exists_splitAtMark_eq_cons (mark : Char) (cs : List Char) :
    ∃ pieces, splitAtMark mark cs = cs.takeWhile (· ≠ mark) :: pieces := by
  induction cs with
  | nil => exact ⟨[], rfl⟩
  | cons c cs ih =>
    obtain ⟨pieces, hpieces⟩ := ih
    rw [splitAtMark]
    by_cases hc : c = mark
    · rw [if_pos hc, List.takeWhile_cons_of_neg (by simpa using hc)]
      exact ⟨splitAtMark mark cs, rfl⟩
    · rw [if_neg hc, hpieces, List.takeWhile_cons_of_pos (by simpa using hc)]
      exact ⟨pieces, rfl⟩

theorem mem_intercalate {mark c : Char} {pieces : List (List Char)}
    (h : c ∈ [mark].intercalate pieces) : c = mark ∨ ∃ piece ∈ pieces, c ∈ piece := by
  induction pieces with
  | nil => simp at h
  | cons piece pieces ih =>
    cases pieces with
    | nil =>
      rw [List.intercalate_singleton] at h
      exact .inr ⟨piece, List.mem_cons_self, h⟩
    | cons next pieces =>
      rw [List.intercalate_cons_cons, List.append_assoc, List.singleton_append, List.mem_append,
        List.mem_cons] at h
      rcases h with h | h | h
      · exact .inr ⟨piece, List.mem_cons_self, h⟩
      · exact .inl h
      · rcases ih h with h | ⟨other, hother, hc⟩
        · exact .inl h
        · exact .inr ⟨other, List.mem_cons_of_mem _ hother, hc⟩

/-- What follows a mark does not matter to what stands in front of the first mark. -/
theorem takeWhile_append_flatMap {p : Char → Bool} {mark : Char} (hmark : p mark = false)
    (cs : List Char) (pieces : List (List Char)) :
    (cs ++ pieces.flatMap (mark :: ·)).takeWhile p = cs.takeWhile p := by
  induction cs with
  | nil =>
    cases pieces with
    | nil => rfl
    | cons piece pieces =>
      rw [List.nil_append, List.flatMap_cons, List.cons_append,
        List.takeWhile_cons_of_neg (by simp [hmark])]
      rfl
  | cons c cs ih => rw [List.cons_append, List.takeWhile_cons, List.takeWhile_cons, ih]

/-- Behind the first piece, every piece follows a mark. -/
theorem intercalate_cons (mark : Char) (piece : List Char) (more : List (List Char)) :
    [mark].intercalate (piece :: more) = piece ++ more.flatMap (mark :: ·) := by
  induction more generalizing piece with
  | nil => simp
  | cons next more ih =>
    rw [List.intercalate_cons_cons, ih, List.flatMap_cons]
    simp

theorem intercalate_append {mark : Char} {pieces : List (List Char)} (hne : pieces ≠ [])
    (more : List (List Char)) :
    [mark].intercalate (pieces ++ more) =
      [mark].intercalate pieces ++ more.flatMap (mark :: ·) := by
  cases pieces with
  | nil => exact absurd rfl hne
  | cons piece pieces =>
    rw [List.cons_append, intercalate_cons, intercalate_cons, List.flatMap_append,
      List.append_assoc]

end SearchDomain.Text
