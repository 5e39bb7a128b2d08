/-
  SearchDomain.Text.Canonical

  The composed form of texts: characters that stand for a sequence are taken
  apart, marks that may change places are put in order, and what can be written
  as one character is put together. Texts that mean the same have one composed
  form.
-/
import SearchDomain.Text.CanonicalTable

namespace SearchDomain.Text

/-! ## Taking apart -/

/-- The letters of a Hangul syllable, given by its place among the syllables: each leading consonant
goes with 21 vowels, and each vowel with 27 trailing consonants or none. -/
def hangulLetters (place : Nat) : List Nat :=
  let letters := [0x1100 + place / 588, 0x1161 + place % 588 / 28]
  if place % 28 = 0 then letters else letters ++ [0x11A7 + place % 28]

/-- The sequence that a character stands for, itself if it stands for none. -/
def decompose (c : Char) : List Char :=
  if c.toNat < 0xC0 then [c]
  else if 0xAC00 ≤ c.toNat ∧ c.toNat ≤ 0xD7A3 then (hangulLetters (c.toNat - 0xAC00)).map Char.ofNat
  else
    let isRow (row : Nat × List Nat) : Bool := row.1 = c.toNat
    match (composites.find? isRow).or (singletons.find? isRow) with
    | none => [c]
    | some row => row.2.map Char.ofNat

/-! ## Order of marks -/

/-- The combining class of a character, zero for all but some marks. -/
def combiningClass (c : Char) : Nat :=
  if c.toNat < 0x300 then 0
  else
    match combiningRuns.find? fun run => run.1 ≤ c.toNat && c.toNat ≤ run.2.1 with
    | none => 0
    | some run => run.2.2

/-- Puts a character in front of a text in order, behind the marks of smaller classes. -/
def insertInOrder (c : Char) : List Char → List Char
  | [] => [c]
  | d :: rest =>
    if 0 < combiningClass d ∧ combiningClass d < combiningClass c then d :: insertInOrder c rest
    else c :: d :: rest

/-- The text with its marks in order. -/
def orderMarks (cs : List Char) : List Char :=
  cs.foldr insertInOrder []

/-! ## Putting together -/

/-- The Hangul syllable of a leading consonant and a vowel, or of a syllable without a trailing
consonant and one. -/
def hangulSyllable? (a b : Nat) : Option Nat :=
  if 0x1100 ≤ a ∧ a ≤ 0x1112 ∧ 0x1161 ≤ b ∧ b ≤ 0x1175 then
    some (0xAC00 + 588 * (a - 0x1100) + 28 * (b - 0x1161))
  else if 0xAC00 ≤ a ∧ a ≤ 0xD7A3 ∧ (a - 0xAC00) % 28 = 0 ∧ 0x11A8 ≤ b ∧ b ≤ 0x11C2 then
    some (a + (b - 0x11A7))
  else none

/-- The character that two are written as. -/
def compose? (a b : Char) : Option Char :=
  if b.toNat < 0x300 then none
  else
    let parts := (decompose a ++ [b]).map Char.toNat
    ((hangulSyllable? a.toNat b.toNat).or
      ((composites.find? fun row => row.2 == parts).map Prod.fst)).map Char.ofNat

/-- Puts together what follows a character of class zero. `passed` holds, backwards, the marks
behind it that stay: a character goes with it only past marks of smaller classes. -/
def composeFrom (starter : Char) (passed : List Char) : List Char → List Char
  | [] => starter :: passed.reverse
  | c :: rest =>
    let isNear := passed.head?.all fun mark => decide (combiningClass mark < combiningClass c)
    match if isNear then compose? starter c else none with
    | some whole => composeFrom whole passed rest
    | none =>
      if combiningClass c = 0 then starter :: (passed.reverse ++ composeFrom c [] rest)
      else composeFrom starter (c :: passed) rest

/-- Puts together what can be written as one character. -/
def composeAll : List Char → List Char
  | [] => []
  | c :: rest => if combiningClass c = 0 then composeFrom c [] rest else c :: composeAll rest

/-- The composed form of a text. -/
def composed (cs : List Char) : List Char :=
  composeAll (orderMarks (cs.flatMap decompose))

end SearchDomain.Text
