/-
  SearchDomain.Json.Token

  The lexical elements of JSON text.
-/
import SearchDomain.Json.Number
import SearchDomain.Text.Hexadecimal

namespace SearchDomain.Json

/-- A lexical element: punctuation, or a value that is not a container. -/
inductive Token where
  | openArray
  | closeArray
  | openObject
  | closeObject
  | comma
  | colon
  | null
  | bool (b : Bool)
  | number (n : JsonNumber)
  | string (s : String)
deriving Repr

/-! ## Strings -/

/-- The number that four hexadecimal digits spell. -/
def hexQuad (a b c d : Char) : Option Nat := do
  let high := 16 * (← Text.hexValue a) + (← Text.hexValue b)
  let low := 16 * (← Text.hexValue c) + (← Text.hexValue d)
  return 256 * high + low

/-- The character that a letter behind a backslash stands for. -/
def escapedChar (c : Char) : Option Char :=
  if c = '"' ∨ c = '\\' ∨ c = '/' then some c
  else if c = 'b' then some '\x08'
  else if c = 'f' then some '\x0c'
  else if c = 'n' then some '\n'
  else if c = 'r' then some '\r'
  else if c = 't' then some '\t'
  else none

/-- The first half of a pair of escapes for one character outside the basic plane. -/
def isHighSurrogate (n : Nat) : Bool := 0xD800 ≤ n && n < 0xDC00

/-- The second half of such a pair. -/
def isLowSurrogate (n : Nat) : Bool := 0xDC00 ≤ n && n < 0xE000

/-- Reads a string from behind its opening quote: its characters, and what follows the closing
quote. Surrogates must come in pairs, and control characters must be escaped. -/
def spanString : List Char → Option (List Char × List Char)
  | [] => none
  | '"' :: rest => some ([], rest)
  | '\\' :: 'u' :: a :: b :: c :: d :: rest =>
    match hexQuad a b c d with
    | none => none
    | some unit =>
      if isHighSurrogate unit then
        match rest with
        | '\\' :: 'u' :: a' :: b' :: c' :: d' :: rest' =>
          match hexQuad a' b' c' d' with
          | none => none
          | some low =>
            if isLowSurrogate low then
              (spanString rest').map fun found =>
                (Char.ofNat (0x10000 + 0x400 * (unit - 0xD800) + (low - 0xDC00)) :: found.1,
                  found.2)
            else none
        | _ => none
      else if isLowSurrogate unit then none
      else (spanString rest).map fun found => (Char.ofNat unit :: found.1, found.2)
  | '\\' :: c :: rest =>
    match escapedChar c with
    | none => none
    | some e => (spanString rest).map fun found => (e :: found.1, found.2)
  | c :: rest =>
    if c.toNat < 0x20 ∨ c = '\\' then none
    else (spanString rest).map fun found => (c :: found.1, found.2)

/-! ## Tokens -/

/-- The white space between tokens: space, tab, line feed and carriage return. -/
def isSpace (c : Char) : Bool :=
  c = ' ' || c = '\t' || c = '\n' || c = '\r'

/-- The token that stands in front of a text, and what follows it. -/
def Token.span : List Char → Option (Token × List Char)
  | '[' :: rest => some (.openArray, rest)
  | ']' :: rest => some (.closeArray, rest)
  | '\x7b' :: rest => some (.openObject, rest)
  | '\x7d' :: rest => some (.closeObject, rest)
  | ',' :: rest => some (.comma, rest)
  | ':' :: rest => some (.colon, rest)
  | 'n' :: 'u' :: 'l' :: 'l' :: rest => some (.null, rest)
  | 't' :: 'r' :: 'u' :: 'e' :: rest => some (.bool true, rest)
  | 'f' :: 'a' :: 'l' :: 's' :: 'e' :: rest => some (.bool false, rest)
  | '"' :: rest => (spanString rest).map fun found => (.string (String.ofList found.1), found.2)
  | cs => (spanNumber cs).map fun found => (.number found.1, found.2)

/-- The tokens of a text, `fuel` bounding how many characters it has. -/
def Token.scanWithin : Nat → List Char → Option (List Token)
  | _, [] => some []
  | 0, _ :: _ => none
  | fuel + 1, c :: cs =>
    if isSpace c then scanWithin fuel cs
    else
      match Token.span (c :: cs) with
      | none => none
      | some (token, rest) => (scanWithin fuel rest).map (token :: ·)

/-- The tokens of a text. -/
def Token.scan (cs : List Char) : Option (List Token) :=
  Token.scanWithin cs.length cs

end SearchDomain.Json
