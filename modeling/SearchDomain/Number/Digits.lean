/-
  SearchDomain.Number.Digits

  Numbers spelled in ASCII digits.
-/
namespace SearchDomain.Digits

/-- The value of a digit. -/
def value (c : Char) : Nat :=
  c.toNat - '0'.toNat

/-- The number that digits spell; none spell zero. -/
def toNat (ds : List Char) : Nat :=
  ds.foldl (fun n d => 10 * n + value d) 0

/-- Splits off the digits in front. -/
def span (cs : List Char) : List Char × List Char :=
  (cs.takeWhile Char.isDigit, cs.dropWhile Char.isDigit)

/-- Splitting loses nothing. -/
theorem span_append (cs : List Char) : (span cs).1 ++ (span cs).2 = cs :=
  List.takeWhile_append_dropWhile

/-- What is split off is made of digits. -/
theorem isDigit_of_mem_span {cs : List Char} {c : Char} (h : c ∈ (span cs).1) :
    c.isDigit = true :=
  List.all_eq_true.1 (List.all_takeWhile (p := Char.isDigit) (l := cs)) c h

end SearchDomain.Digits
