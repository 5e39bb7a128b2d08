/-
  SearchDomain.Text.Quoted

  Literals of the query language: a text between single quotes, in which a
  backslash stands before every backslash and every quote. Beside the writer
  stands the scan by which the service finds a literal's end.
-/
namespace SearchDomain.Text

namespace Quoted

/-- One character inside a literal. -/
def escapeChar (c : Char) : List Char :=
  if c = '\\' ∨ c = '\'' then ['\\', c] else [c]

/-- The characters between the quotes. -/
def escape (cs : List Char) : List Char :=
  cs.flatMap escapeChar

/-- A whole literal, quotes included. -/
def literal (cs : List Char) : List Char :=
  '\'' :: (escape cs ++ ['\''])

/-- Reads on from behind an opening quote, a backslash taking the next character with it:
the text of the literal, and what follows its closing quote. -/
def scan : List Char → Option (List Char × List Char)
  | [] => none
  | '\'' :: rest => some ([], rest)
  | ['\\'] => none
  | '\\' :: c :: rest => (scan rest).map fun found => (c :: found.1, found.2)
  | c :: rest => (scan rest).map fun found => (c :: found.1, found.2)

end Quoted

/-- A text as a literal of the query language. -/
def quote (s : String) : String :=
  String.ofList (Quoted.literal s.toList)

theorem toList_quote (s : String) : (quote s).toList = Quoted.literal s.toList := by
  simp only [quote, String.toList_ofList]

end SearchDomain.Text
