/-
  SearchDomain.Query.Form

  The form encoding of query strings, in both directions. A letter, a digit and
  `*`, `-`, `.`, `_` stand for themselves, a space is written as a plus sign,
  and every other byte of the text's UTF-8 form as a percent sign and two
  hexadecimal digits.
-/
import SearchDomain.Text.Hexadecimal
import SearchDomain.Text.Split

namespace SearchDomain.Query

/-! ## Writing -/

/-- Whether a byte stands for itself. -/
def isPlainByte (b : UInt8) : Bool :=
  let n := b.toNat
  (0x30 ≤ n && n ≤ 0x39) || (0x41 ≤ n && n ≤ 0x5A) || (0x61 ≤ n && n ≤ 0x7A) ||
    n = 0x2A || n = 0x2D || n = 0x2E || n = 0x5F

/-- One byte of an encoded text. -/
def encodeByte (b : UInt8) : List Char :=
  if isPlainByte b then [Char.ofNat b.toNat]
  else if b = 0x20 then ['+']
  else ['%', Text.hexDigit 'A' (b.toNat / 16), Text.hexDigit 'A' (b.toNat % 16)]

/-- The bytes of a text's UTF-8 form. -/
def utf8Bytes (s : String) : List UInt8 :=
  s.toList.flatMap String.utf8EncodeChar

/-- The encoded characters of a text. -/
def encodeChars (s : String) : List Char :=
  (utf8Bytes s).flatMap encodeByte

/-- A text in form encoding. -/
def encode (s : String) : String :=
  String.ofList (encodeChars s)

/-! ## Reading -/

/-- The bytes that an encoded text stands for. A percent sign without two digits behind it stands
for itself. -/
def decodeBytes : List Char → List UInt8
  | [] => []
  | '+' :: rest => 0x20 :: decodeBytes rest
  | '%' :: a :: b :: rest =>
    match Text.hexValue a, Text.hexValue b with
    | some high, some low => UInt8.ofNat (16 * high + low) :: decodeBytes rest
    | _, _ => 0x25 :: decodeBytes (a :: b :: rest)
  | c :: rest => String.utf8EncodeChar c ++ decodeBytes rest

/-- The text that an encoded text stands for, if its bytes are UTF-8. -/
def decodeChars (cs : List Char) : Option String :=
  String.fromUTF8? ⟨(decodeBytes cs).toArray⟩

/-! ## Parameters -/

/-- The name and the value on the two sides of the first equals sign. -/
def decodePiece (piece : List Char) : Option (String × String) := do
  let name ← decodeChars (piece.takeWhile (· ≠ '='))
  let value ← decodeChars ((piece.dropWhile (· ≠ '=')).drop 1)
  return (name, value)

/-- The parameters of a query string. -/
def decode (s : String) : Option (List (String × String)) :=
  (Text.splitAtMark '&' s.toList).mapM decodePiece

end SearchDomain.Query
