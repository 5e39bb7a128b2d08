/-
  SearchDomain.Text.Hexadecimal

  Hexadecimal digits. Both cases are read; JSON escapes are written with small
  letters and query strings with capitals.
-/
namespace SearchDomain.Text

/-- The value of a hexadecimal digit in either case. -/
def hexValue (c : Char) : Option Nat :=
  if c.isDigit then some (c.toNat - '0'.toNat)
  else if 'a' ≤ c ∧ c ≤ 'f' then some (c.toNat - 'a'.toNat + 10)
  else if 'A' ≤ c ∧ c ≤ 'F' then some (c.toNat - 'A'.toNat + 10)
  else none

/-- The hexadecimal digit for a number below sixteen, where `ten` is the letter for ten. -/
def hexDigit (ten : Char) (n : Nat) : Char :=
  if n < 10 then Char.ofNat ('0'.toNat + n) else Char.ofNat (ten.toNat + (n - 10))

/-- A digit that is written is read again, in either case. -/
theorem hexValue_hexDigit {ten : Char} (hten : ten = 'a' ∨ ten = 'A') {n : Nat} (hn : n < 16) :
    hexValue (hexDigit ten n) = some n := by
  have h : ∀ m : Fin 16, hexValue (hexDigit 'a' m) = some m.val ∧
      hexValue (hexDigit 'A' m) = some m.val := by decide
  rcases hten with rfl | rfl
  · exact (h ⟨n, hn⟩).1
  · exact (h ⟨n, hn⟩).2

end SearchDomain.Text
