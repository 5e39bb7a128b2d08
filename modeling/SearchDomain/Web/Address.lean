/-
  SearchDomain.Web.Address

  Which texts are absolute URLs, by the rules that browsers follow: what stands
  at the ends and looks like nothing is ignored, backslashes pass for slashes in
  the usual schemes, and only the scheme, the host and the port can be wrong.
-/
import SearchDomain.Web.Host

namespace SearchDomain.Web

/-- How a scheme treats what follows it. -/
inductive SchemeKind where
  /-- `http` and its like: a host must follow. -/
  | usual
  | file
  | other
deriving DecidableEq, Repr

def schemeKind (scheme : List Char) : SchemeKind :=
  let name := String.ofList (scheme.map Char.toLower)
  if ["http", "https", "ws", "wss", "ftp"].contains name then .usual
  else if name = "file" then .file
  else .other

/-- The text without controls and spaces at its ends, and without tabs and line breaks. -/
def significant (s : String) : List Char :=
  let isEdge (c : Char) : Bool := c.toNat ≤ 0x20
  let trimmed := ((s.toList.dropWhile isEdge).reverse.dropWhile isEdge).reverse
  trimmed.filter fun c => c ≠ '\t' && c ≠ '\n' && c ≠ '\x0d'

/-- The scheme in front of a colon, and what follows. -/
def splitScheme : List Char → Option (List Char × List Char)
  | [] => none
  | first :: rest =>
    let isRest (c : Char) : Bool := c.isAlphanum || c = '+' || c = '-' || c = '.'
    if first.isAlpha then
      match rest.dropWhile isRest with
      | ':' :: behind => some (first :: rest.takeWhile isRest, behind)
      | _ => none
    else none

/-- Whether a character ends the part with user, host and port. -/
def endsAuthority (kind : SchemeKind) (c : Char) : Bool :=
  c = '/' || c = '?' || c = '#' || (c = '\\' && kind ≠ .other)

/-- What stands before and behind the last at sign of a text. -/
def splitAtLastAt (cs : List Char) : Option (List Char × List Char) :=
  match cs.reverse.dropWhile (· ≠ '@') with
  | [] => none
  | _ :: before => some (before.reverse, (cs.reverse.takeWhile (· ≠ '@')).reverse)

/-- Splits off the host, up to a colon outside brackets. -/
def spanHost (inBrackets : Bool) : List Char → List Char × List Char
  | [] => ([], [])
  | c :: rest =>
    if c = ':' ∧ ¬inBrackets then ([], c :: rest)
    else
      let inside := if c = '[' then true else if c = ']' then false else inBrackets
      let found := spanHost inside rest
      (c :: found.1, found.2)

/-- Whether what follows a host is nothing, or a colon and a port within 16 bits. A backslash ends
a port in every scheme. -/
def isPortPart : List Char → Bool
  | [] => true
  | ':' :: rest =>
    let isRest : Bool :=
      match rest.dropWhile Char.isDigit with
      | [] => true
      | c :: _ => c = '\\'
    isRest && decide ((numberIn 10 (rest.takeWhile Char.isDigit)).getD 0 ≤ 65535)
  | _ => false

/-- Whether a user part says anything: more than a colon at its end. -/
def hasCredentials (user : List Char) : Bool :=
  user ≠ [] && user ≠ [':']

/-- The part of a text up to what ends user, host and port. -/
def authorityOf (kind : SchemeKind) (cs : List Char) : List Char :=
  cs.takeWhile fun c => !endsAuthority kind c

/-- Whether user, host and port in front of a text are right. -/
def beginsWithAuthority (kind : SchemeKind) (cs : List Char) : Bool :=
  let authority := authorityOf kind cs
  let (user, hostPort) := (splitAtLastAt authority).getD ([], authority)
  let (host, port) := spanHost false hostPort
  -- an at sign with nothing around it may only end the whole text
  let isLoneAt := authority = ['@'] && cs ≠ authority
  let hostIsRight :=
    if host = [] then kind = .other && port = [] && !hasCredentials user && !isLoneAt
    else if kind = .usual then isHost host
    else isOpaqueHost host
  hostIsRight && isPortPart port

/-- A letter and a colon or a bar, which in a file URL is a drive and no host. -/
def isDriveLetter : List Char → Bool
  | [letter, mark] => letter.isAlpha && (mark = ':' || mark = '|')
  | _ => false

/-- Whether what follows `file:` is right. -/
def isFileRest : List Char → Bool
  | a :: b :: rest =>
    if (a = '/' || a = '\\') && (b = '/' || b = '\\') then
      -- a file URL has neither user nor port, so a colon or an at sign belongs to the host
      let host := authorityOf .file rest
      host = [] || isDriveLetter host || isHost host
    else true
  | _ => true

/-- Whether a text is an absolute URL. -/
def isAbsoluteUrl (s : String) : Bool :=
  match splitScheme (significant s) with
  | none => false
  | some (scheme, rest) =>
    match schemeKind scheme with
    | .usual => beginsWithAuthority .usual (rest.dropWhile fun c => c = '/' || c = '\\')
    | .file => isFileRest rest
    | .other =>
      match rest with
      | '/' :: '/' :: behind => beginsWithAuthority .other behind
      | _ => true

end SearchDomain.Web
