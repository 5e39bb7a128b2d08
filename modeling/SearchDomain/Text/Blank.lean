/-
  SearchDomain.Text.Blank

  White space as Unicode defines it, and trimming by it. Names, versions and
  modes are trimmed before they are compared, and a setting that is nothing but
  white space counts as not given.
-/
import SearchDomain.Text.CharTable

namespace SearchDomain.Text

/-- The characters with the Unicode property `White_Space`. -/
def blanks : CharTable :=
  [(0x9, 0xD), (0x20, 0x20), (0x85, 0x85), (0xA0, 0xA0), (0x1680, 0x1680), (0x2000, 0x200A),
    (0x2028, 0x2029), (0x202F, 0x202F), (0x205F, 0x205F), (0x3000, 0x3000)]

/-- Whether a character is white space. -/
def isBlank (c : Char) : Bool :=
  blanks.contains c

/-! ## Trimming -/

/-- The characters without those of a class at the end. -/
def dropEndWhile (p : Char → Bool) (cs : List Char) : List Char :=
  (cs.reverse.dropWhile p).reverse

/-- The text without white space in front. -/
def trimStart (s : String) : String :=
  String.ofList (s.toList.dropWhile isBlank)

/-- The text without white space at either end. -/
def trim (s : String) : String :=
  String.ofList (dropEndWhile isBlank (s.toList.dropWhile isBlank))

/-- Whether a text has no character other than white space. -/
def isBlankText (s : String) : Bool :=
  s.toList.all isBlank

/-- The text without the slashes at its end. -/
def trimEndSlashes (s : String) : String :=
  String.ofList (dropEndWhile (· == '/') s.toList)

theorem toList_trimStart (s : String) : (trimStart s).toList = s.toList.dropWhile isBlank := by
  simp only [trimStart, String.toList_ofList]

theorem toList_trim (s : String) :
    (trim s).toList = dropEndWhile isBlank (s.toList.dropWhile isBlank) := by
  simp only [trim, String.toList_ofList]

theorem toList_trimEndSlashes (s : String) :
    (trimEndSlashes s).toList = dropEndWhile (· == '/') s.toList := by
  simp only [trimEndSlashes, String.toList_ofList]

end SearchDomain.Text
