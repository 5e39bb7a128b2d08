/-
  SearchDomain.Web.Domain

  Domain names of URLs: the mapping of international names, the ASCII forms of
  their labels, and the checks on the labels.
-/
import SearchDomain.Text.Split
import SearchDomain.Web.Direction
import SearchDomain.Web.DomainTable
import SearchDomain.Web.Joiner
import SearchDomain.Web.Punycode

namespace SearchDomain.Web

/-! ## Mapping -/

/-- The ASCII characters that no domain name contains: controls, the space, and the marks that have
a meaning in URLs. -/
def isForbiddenAscii (c : Char) : Bool :=
  c.toNat ≤ 0x20 || c.toNat = 0x7F || "%#/:<>?@[\\]^|".toList.contains c

/-- Whether a character is an ASCII one. -/
def isAscii (c : Char) : Bool :=
  c.toNat < 0x80

/-- The characters that one beyond ASCII turns into, itself if none is known. -/
def mappedTo (c : Char) : List Char :=
  let isIn (first last : Nat) : Bool := first ≤ c.toNat && c.toNat ≤ last
  if alternatingRuns.any fun run => isIn run.1 run.2 && (c.toNat - run.1) % 2 = 0 then
    [Char.ofNat (c.toNat + 1)]
  else
    match constantRuns.find? fun run => isIn run.1 run.2.1 with
    | some run => [Char.ofNat run.2.2]
    | none =>
      match shiftedRuns.find? fun run => isIn run.1 run.2.1 with
      | some run => [Char.ofNat (run.2.2 + (c.toNat - run.1))]
      | none =>
        match phrases.find? fun row => row.1 = c.toNat with
        | some row => row.2.toList
        | none => [c]

/-- What a character stands for in a domain name, if it may stand there. -/
def mapPart (c : Char) : Option (List Char) :=
  if isAscii c then some [c.toLower]
  else if disallowed.contains c then none
  else if ignored.contains c then some []
  else some (mappedTo c)

/-- A domain name as its characters stand for it: each is taken apart and mapped, and the whole is
put together again. What is put together may hold a character that must not stand alone. -/
def mapName (cs : List Char) : Option (List Char) := do
  let parts ← (cs.flatMap Text.decompose).mapM mapPart
  let name := Text.composed parts.flatten
  if name.any isForbiddenAscii then none else some name

/-! ## Labels -/

/-- The longest label beyond ASCII that is written in ASCII form. -/
def maxLabelLength : Nat := 1000

/-- The longest ASCII form that is read. -/
def maxFormLength : Nat := 2000

/-- The label that a label stands for. An ASCII form stands for one that has characters beyond ASCII
and stays as it is when it is mapped; all others stand for themselves. -/
def plainLabel? : List Char → Option (List Char)
  | 'x' :: 'n' :: '-' :: '-' :: form =>
    if form.all isAscii && form.length ≤ maxFormLength then
      (Punycode.decode form).filter fun label => !label.all isAscii && mapName label == some label
    else none
  | label => some label

/-- Whether a label begins with no mark, holds no joiner in vain and, beyond ASCII, is not too
long. -/
def isGoodLabel (label : List Char) : Bool :=
  !label.head?.any Text.isMark && joinersMatter [] label &&
    (label.all isAscii || label.length ≤ maxLabelLength)

/-- The labels of a domain name after mapping, if it is a domain name. -/
def domainLabels? (cs : List Char) : Option (List (List Char)) := do
  let labels := Text.splitAtMark '.' (← mapName cs)
  let plain ← labels.mapM plainLabel?
  if plain.all isGoodLabel && keepOrder plain then some labels else none

end SearchDomain.Web
