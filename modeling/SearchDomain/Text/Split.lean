/-
  SearchDomain.Text.Split

  Cutting a list of characters at a mark.
-/
namespace SearchDomain.Text

/-- The pieces between the marks. There is always at least one. -/
def splitAtMark (mark : Char) : List Char → List (List Char)
  | [] => [[]]
  | c :: cs =>
    if c = mark then [] :: splitAtMark mark cs
    else
      match splitAtMark mark cs with
      | [] => [[c]]
      | piece :: pieces => (c :: piece) :: pieces

theorem splitAtMark_ne_nil (mark : Char) (cs : List Char) : splitAtMark mark cs ≠ [] := by
  cases cs with
  | nil => simp [splitAtMark]
  | cons c cs =>
    simp only [splitAtMark]
    split
    · simp
    · split <;> simp

end SearchDomain.Text
