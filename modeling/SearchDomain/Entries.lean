/-
  SearchDomain.Entries

  Named values in order. A name is entered once: writing it again keeps its
  place and takes the new value. JSON objects, document fields and the hits of a
  page are all kept this way.
-/
namespace SearchDomain

/-- Named values in the order in which their names were first written. -/
abbrev Entries (α : Type) := List (String × α)

namespace Entries

variable {α β : Type}

/-- Writes a value under a name: in the name's place if it has one, else at the end. -/
def insert : Entries α → String → α → Entries α
  | [], name, value => [(name, value)]
  | entry :: rest, name, value =>
    if entry.1 = name then (name, value) :: rest else entry :: insert rest name value

/-- The value under a name. -/
def find? (entries : Entries α) (name : String) : Option α :=
  entries.lookup name

/-- Writes the pairs one after another. -/
def ofPairs (pairs : List (String × α)) : Entries α :=
  pairs.foldl (fun entries pair => entries.insert pair.1 pair.2) []

/-- The names in order. -/
def names (entries : Entries α) : List String :=
  entries.map Prod.fst

/-- The names of the entries are those of before, and the new one if it is new. -/
theorem names_insert (entries : Entries α) (name : String) (value : α) :
    (entries.insert name value).names =
      if name ∈ entries.names then entries.names else entries.names ++ [name] := by
  induction entries with
  | nil => simp [insert, names]
  | cons entry rest ih =>
    by_cases h : entry.1 = name
    · simp [insert, names, h]
    · have h' : name ≠ entry.1 := fun e => h e.symm
      simp only [names] at ih
      simp only [insert, h, if_false, names, List.map_cons, ih, List.mem_cons, h', false_or]
      by_cases hm : name ∈ rest.map Prod.fst <;> simp [hm]

/-- What was written last under a name is found there; other names are left alone. -/
theorem find?_insert (entries : Entries α) (name other : String) (value : α) :
    (entries.insert name value).find? other =
      if other = name then some value else entries.find? other := by
  induction entries with
  | nil =>
    by_cases h : other = name <;> simp [insert, find?, h]
  | cons entry rest ih =>
    obtain ⟨key, old⟩ := entry
    simp only [find?] at ih
    by_cases h : key = name
    · subst h
      by_cases ho : other = key
      · simp [insert, find?, ho]
      · simp [insert, find?, List.lookup_cons, ho, beq_eq_false_iff_ne.2 ho]
    · by_cases ho : other = key
      · subst ho
        simp [insert, find?, h]
      · simp [insert, find?, List.lookup_cons, h, beq_eq_false_iff_ne.2 ho, ih]

end Entries

end SearchDomain
