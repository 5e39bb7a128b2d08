/-
  SearchDomain.Json.Basic

  JSON values. Members of an object keep their order, and whole numbers stay
  apart from numbers with a point or an exponent, because the service and the
  filter language tell them apart.
-/
import SearchDomain.Entries
import SearchDomain.Number.Layout

namespace SearchDomain

/-- A JSON number: a whole number from `-2 ^ 63` up to `2 ^ 64 - 1`, or a binary64 number. -/
inductive JsonNumber where
  | whole (n : Int)
  | real (x : Binary64)
deriving DecidableEq, Repr

namespace JsonNumber

/-- The number as a 64-bit signed integer, if it is a whole number in that range. -/
def toInt64? : JsonNumber → Option Int64
  | whole n =>
    if -0x8000000000000000 ≤ n ∧ n < 0x8000000000000000 then some (Int64.ofInt n) else none
  | real _ => none

/-- The number as a 64-bit unsigned integer, if it is a whole number in that range. -/
def toNat? : JsonNumber → Option Nat
  | whole n => if 0 ≤ n ∧ n < 0x10000000000000000 then some n.toNat else none
  | real _ => none

/-- The binary64 number nearest to the number. -/
def toBinary64 : JsonNumber → Binary64
  | whole n => Binary64.ofInt n
  | real x => x

/-- The number as JSON writes it. -/
def text : JsonNumber → String
  | whole n => toString n
  | real x => x.jsonText

end JsonNumber

/-- A JSON value. -/
inductive Json where
  | null
  | bool (b : Bool)
  | number (n : JsonNumber)
  | string (s : String)
  | array (items : List Json)
  | object (members : List (String × Json))
deriving Inhabited, Repr

namespace Json

/-- A whole number. -/
def whole (n : Int) : Json :=
  number (.whole n)

/-- A binary64 number; JSON has no NaN and no infinities, which become `null`. -/
def real (x : Binary64) : Json :=
  if x.isFinite then number (.real x) else null

/-- A text, or `null` for none. -/
def optionalString : Option String → Json
  | some s => string s
  | none => null

/-! ## Views -/

/-- The member of an object under a name; nothing else has members. -/
def member? (name : String) : Json → Option Json
  | object members => Entries.find? members name
  | _ => none

def asObject? : Json → Option (Entries Json)
  | object members => some members
  | _ => none

def asArray? : Json → Option (List Json)
  | array items => some items
  | _ => none

def asString? : Json → Option String
  | string s => some s
  | _ => none

def asNat? : Json → Option Nat
  | number n => n.toNat?
  | _ => none

/-- The number of the value in binary64, whole numbers rounded. -/
def asBinary64? : Json → Option Binary64
  | number n => some n.toBinary64
  | _ => none

/-- What sort of value this is, in the words of messages about filters. -/
def sort : Json → String
  | null => "null"
  | bool _ => "boolean"
  | number _ => "number"
  | string _ => "string"
  | array _ => "array"
  | object _ => "object"

/-! ## Nesting -/

mutual

/-- How many containers stand inside one another, at the deepest place. -/
def depth : Json → Nat
  | array items => itemsDepth items + 1
  | object members => membersDepth members + 1
  | _ => 0

/-- The greatest depth among items. -/
def itemsDepth : List Json → Nat
  | [] => 0
  | item :: rest => max item.depth (itemsDepth rest)

/-- The greatest depth among the values of members. -/
def membersDepth : List (String × Json) → Nat
  | [] => 0
  | (_, value) :: rest => max value.depth (membersDepth rest)

end

end Json

end SearchDomain
