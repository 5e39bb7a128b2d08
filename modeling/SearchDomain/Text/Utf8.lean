/-
  SearchDomain.Text.Utf8

  Text from bytes that should be UTF-8. Each longest run of bytes that begins a
  character but does not finish it becomes one replacement character.
-/
namespace SearchDomain.Text

namespace Utf8

/-- What a first byte calls for: how many bytes follow, the bounds of the next one, and the bits
that the first byte contributes. -/
structure Lead where
  following : Nat
  least : Nat
  greatest : Nat
  bits : Nat

/-- The lead that a byte is, when it begins a character of several bytes. -/
def lead? (b : Nat) : Option Lead :=
  if b < 0xC2 then none
  else if b < 0xE0 then some ⟨1, 0x80, 0xBF, b - 0xC0⟩
  else if b = 0xE0 then some ⟨2, 0xA0, 0xBF, 0⟩
  else if b = 0xED then some ⟨2, 0x80, 0x9F, 0xD⟩
  else if b < 0xF0 then some ⟨2, 0x80, 0xBF, b - 0xE0⟩
  else if b = 0xF0 then some ⟨3, 0x90, 0xBF, 0⟩
  else if b < 0xF4 then some ⟨3, 0x80, 0xBF, b - 0xF0⟩
  else if b = 0xF4 then some ⟨3, 0x80, 0x8F, 4⟩
  else none

def replacement : Char := '\ufffd'

/-- Decodes bytes. `pending` is the character under way: the bytes still due, the bounds of the
next one, and the bits so far. -/
def decodeFrom : Option Lead → List UInt8 → List Char
  | none, [] => []
  | some _, [] => [replacement]
  | none, b :: rest =>
    if b.toNat < 0x80 then Char.ofNat b.toNat :: decodeFrom none rest
    else
      match lead? b.toNat with
      | some pending => decodeFrom (some pending) rest
      | none => replacement :: decodeFrom none rest
  | some pending, b :: rest =>
    if pending.least ≤ b.toNat ∧ b.toNat ≤ pending.greatest then
      let bits := pending.bits * 0x40 + (b.toNat - 0x80)
      if pending.following ≤ 1 then Char.ofNat bits :: decodeFrom none rest
      else decodeFrom (some ⟨pending.following - 1, 0x80, 0xBF, bits⟩) rest
    else if b.toNat < 0x80 then
      replacement :: Char.ofNat b.toNat :: decodeFrom none rest
    else
      match lead? b.toNat with
      | some next => replacement :: decodeFrom (some next) rest
      | none => replacement :: replacement :: decodeFrom none rest

/-- The bytes without a byte order mark in front. -/
def dropMark : List UInt8 → List UInt8
  | 0xEF :: 0xBB :: 0xBF :: rest => rest
  | bytes => bytes

/-- The text of some bytes. -/
def decode (bytes : List UInt8) : String :=
  String.ofList (decodeFrom none (dropMark bytes))

end Utf8

end SearchDomain.Text
