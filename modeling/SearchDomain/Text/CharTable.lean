/-
  SearchDomain.Text.CharTable

  Sets of characters given as closed ranges of code points, the form in which
  Unicode publishes its properties.
-/
namespace SearchDomain.Text

/-- A set of characters: the code points inside one of the closed ranges. -/
abbrev CharTable := List (Nat × Nat)

namespace CharTable

/-- Whether a character lies in one of the ranges. -/
def contains (table : CharTable) (c : Char) : Bool :=
  table.any fun range => range.1 ≤ c.toNat && c.toNat ≤ range.2

theorem contains_iff {table : CharTable} {c : Char} :
    table.contains c = true ↔ ∃ range ∈ table, range.1 ≤ c.toNat ∧ c.toNat ≤ range.2 := by
  simp [contains]

end CharTable

end SearchDomain.Text
