/-
  SearchDomain.Json.Writer

  JSON as text: a compact form without white space, in which requests are sent,
  and an indented form for people.
-/
import SearchDomain.Json.Basic
import SearchDomain.Text.Hexadecimal

namespace SearchDomain.Json

/-! ## Strings -/

/-- One character inside a string. Control characters are escaped, by their short form where
there is one; beyond those only the quote and the backslash are. -/
def escapeChar (c : Char) : List Char :=
  if c = '"' then ['\\', '"']
  else if c = '\\' then ['\\', '\\']
  else if c = '\x08' then ['\\', 'b']
  else if c = '\x0c' then ['\\', 'f']
  else if c = '\n' then ['\\', 'n']
  else if c = '\r' then ['\\', 'r']
  else if c = '\t' then ['\\', 't']
  else if c.toNat < 0x20 then
    ['\\', 'u', '0', '0', Text.hexDigit 'a' (c.toNat / 16), Text.hexDigit 'a' (c.toNat % 16)]
  else [c]

/-- A string with its quotes. -/
def stringText (s : String) : String :=
  String.ofList ('"' :: (s.toList.flatMap escapeChar ++ ['"']))

/-! ## Compact text -/

mutual

/-- The value without any white space. -/
def compact : Json → String
  | null => "null"
  | bool true => "true"
  | bool false => "false"
  | number n => n.text
  | string s => stringText s
  | array [] => "[]"
  | array (item :: rest) => "[" ++ item.compact ++ compactItems rest ++ "]"
  | object [] => "\x7b\x7d"
  | object ((name, value) :: rest) =>
    "\x7b" ++ stringText name ++ ":" ++ value.compact ++ compactMembers rest ++ "\x7d"

/-- Further items, each behind a comma. -/
def compactItems : List Json → String
  | [] => ""
  | item :: rest => "," ++ item.compact ++ compactItems rest

/-- Further members, each behind a comma. -/
def compactMembers : List (String × Json) → String
  | [] => ""
  | (name, value) :: rest =>
    "," ++ stringText name ++ ":" ++ value.compact ++ compactMembers rest

end

/-! ## Indented text -/

/-- A new line at a level of nesting, two spaces a level. -/
def lineBreak (level : Nat) : String :=
  String.ofList ('\n' :: List.replicate (2 * level) ' ')

mutual

/-- The value over several lines, an empty container on one. -/
def indented (level : Nat) : Json → String
  | null => "null"
  | bool true => "true"
  | bool false => "false"
  | number n => n.text
  | string s => stringText s
  | array [] => "[]"
  | array (item :: rest) =>
    "[" ++ lineBreak (level + 1) ++ item.indented (level + 1) ++ indentedItems (level + 1) rest ++
      lineBreak level ++ "]"
  | object [] => "\x7b\x7d"
  | object ((name, value) :: rest) =>
    "\x7b" ++ lineBreak (level + 1) ++ stringText name ++ ": " ++ value.indented (level + 1) ++
      indentedMembers (level + 1) rest ++ lineBreak level ++ "\x7d"

/-- Further items, each behind a comma and on a line of its own. -/
def indentedItems (level : Nat) : List Json → String
  | [] => ""
  | item :: rest => "," ++ lineBreak level ++ item.indented level ++ indentedItems level rest

/-- Further members, each behind a comma and on a line of its own. -/
def indentedMembers (level : Nat) : List (String × Json) → String
  | [] => ""
  | (name, value) :: rest =>
    "," ++ lineBreak level ++ stringText name ++ ": " ++ value.indented level ++
      indentedMembers level rest

end

/-- The value over several lines. -/
def pretty (value : Json) : String :=
  value.indented 0

end SearchDomain.Json
