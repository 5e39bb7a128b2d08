/-
  SearchDomain.Web.Host

  Hosts of URLs: domain names, IPv4 addresses in their many spellings, and IPv6
  addresses in brackets.
-/
import SearchDomain.Query.Form
import SearchDomain.Web.Domain

namespace SearchDomain.Web

/-! ## IPv4 -/

/-- The value of a digit in a base up to sixteen. -/
def digitIn (base : Nat) (c : Char) : Option Nat :=
  (Text.hexValue c).filter fun value => decide (value < base)

/-- The number that digits spell in a base. -/
def numberIn (base : Nat) (cs : List Char) : Option Nat :=
  cs.foldlM (fun n c => (digitIn base c).map (base * n + ·)) 0

/-- A part of an IPv4 address: hexadecimal behind `0x`, octal behind `0`, else decimal. -/
def ipv4Part : List Char → Option Nat
  | [] => none
  | '0' :: 'x' :: cs => numberIn 16 cs
  | '0' :: 'X' :: cs => numberIn 16 cs
  | '0' :: c :: cs => numberIn 8 (c :: cs)
  | cs => numberIn 10 cs

/-- The parts without an empty one at the end. -/
def dropLastEmpty (parts : List (List Char)) : List (List Char) :=
  match parts.reverse with
  | [] :: rest => if rest.isEmpty then parts else rest.reverse
  | _ => parts

/-- Whether the last part is a number, so that the whole has to be an IPv4 address. -/
def endsInNumber (labels : List (List Char)) : Bool :=
  match (dropLastEmpty labels).getLast? with
  | none => false
  | some last => (!last.isEmpty && last.all Char.isDigit) || (ipv4Part last).isSome

/-- Whether parts make an IPv4 address: at most four numbers, all but the last within a byte and
the last within the bytes that are left. -/
def isIpv4 (labels : List (List Char)) : Bool :=
  match (dropLastEmpty labels).mapM ipv4Part with
  | none => false
  | some numbers =>
    match numbers.reverse with
    | [] => false
    | last :: others =>
      decide (numbers.length ≤ 4) && others.all (fun n => decide (n ≤ 255)) &&
        decide (last < Nat.pow 256 (4 - others.length))

/-! ## IPv6 -/

/-- A piece of an IPv6 address: one to four hexadecimal digits. -/
def isIpv6Piece (cs : List Char) : Bool :=
  1 ≤ cs.length && cs.length ≤ 4 && cs.all fun c => (Text.hexValue c).isSome

/-- A byte in decimal without zeros in front. -/
def isDecimalByte (cs : List Char) : Bool :=
  match cs with
  | [] => false
  | ['0'] => true
  | '0' :: _ => false
  | _ => cs.all Char.isDigit && cs.length ≤ 3 && decide ((numberIn 10 cs).getD 256 ≤ 255)

/-- How many pieces a run of pieces between colons counts, an IPv4 address at its end for two. -/
def ipv6Pieces (allowIpv4 : Bool) : List (List Char) → Option Nat
  | [] => some 0
  | [last] =>
    if isIpv6Piece last then some 1
    else
      let bytes := Text.splitAtMark '.' last
      if allowIpv4 ∧ bytes.length = 4 ∧ bytes.all isDecimalByte then some 2 else none
  | piece :: rest =>
    if isIpv6Piece piece then (ipv6Pieces allowIpv4 rest).map (· + 1) else none

/-- What stands before and behind the first pair of colons. -/
def splitAtGap : List Char → Option (List Char × List Char)
  | ':' :: ':' :: rest => some ([], rest)
  | c :: rest => (splitAtGap rest).map fun found => (c :: found.1, found.2)
  | [] => none

/-- The pieces of a run, none for an empty one. -/
def ipv6Run (allowIpv4 : Bool) (cs : List Char) : Option Nat :=
  if cs = [] then some 0 else ipv6Pieces allowIpv4 (Text.splitAtMark ':' cs)

/-- Whether a text is an IPv6 address: eight pieces, or fewer and one gap. -/
def isIpv6 (cs : List Char) : Bool :=
  match splitAtGap cs with
  | none => ipv6Run true cs == some 8
  | some (before, behind) =>
    match ipv6Run false before, ipv6Run true behind with
    | some m, some n => decide (m + n ≤ 7)
    | _, _ => false

/-! ## Hosts -/

/-- The bytes of a text whose percent signs with two hexadecimal digits stand for a byte. -/
def percentDecode : List Char → List UInt8
  | [] => []
  | '%' :: a :: b :: rest =>
    match Text.hexValue a, Text.hexValue b with
    | some high, some low => UInt8.ofNat (16 * high + low) :: percentDecode rest
    | _, _ => 0x25 :: percentDecode (a :: b :: rest)
  | c :: rest => String.utf8EncodeChar c ++ percentDecode rest

/-- The inside of brackets around a text. -/
def insideBrackets? : List Char → Option (List Char)
  | '[' :: rest => if rest.getLast? = some ']' then some rest.dropLast else some []
  | _ => none

/-- Whether a text is a host of a URL whose scheme has a host of its own. -/
def isHost (cs : List Char) : Bool :=
  match insideBrackets? cs with
  | some address => isIpv6 address
  | none =>
    match String.fromUTF8? ⟨(percentDecode cs).toArray⟩ with
    | none => false
    | some domain =>
      match domainLabels? domain.toList with
      | none => false
      | some labels => labels ≠ [[]] && (!endsInNumber labels || isIpv4 labels)

/-- Whether a text is a host of a URL of another scheme. -/
def isOpaqueHost (cs : List Char) : Bool :=
  match insideBrackets? cs with
  | some address => isIpv6 address
  | none => cs.all fun c => !"\x00\t\n\x0d #/:<>?@[\\]^|".toList.contains c

end SearchDomain.Web
