import NamedLock.Number.Decimal

/-!
# Endpoint — where spans are sent

An endpoint is a URI: a path, an authority alone, or a scheme, an authority and perhaps a path. An empty
endpoint stands for the usual one. `check` says whether a program can start with an endpoint.
-/

namespace NamedLock

namespace Probe

/-- Why a text is not a URI. -/
inductive UriError
  | empty
  | tooLong
  | schemeTooLong
  | invalidCharacter
  | invalidAuthority
  | invalidFormat
  deriving DecidableEq, Repr

/-- The message of an error. -/
def UriError.message : UriError → String
  | empty => "empty string"
  | tooLong => "uri too long"
  | schemeTooLong => "scheme too long"
  | invalidCharacter => "invalid uri character"
  | invalidAuthority => "invalid authority"
  | invalidFormat => "invalid format"

namespace Endpoint

/-- Whether a character is an ASCII letter or digit. -/
def isWordChar (c : Char) : Bool :=
  Number.isDigit c || ('a' ≤ c && c ≤ 'z') || ('A' ≤ c && c ≤ 'Z')

/-- Marks that may stand in an authority. -/
def authorityMarks : List Char :=
  ['!', '$', '&', '\x27', '(', ')', '*', '+', ',', '-', '.', ':', ';', '=', '@', '[', ']', '_', '~']

/-- Whether a character may stand in an authority. -/
def isAuthorityChar (c : Char) : Bool := isWordChar c || authorityMarks.contains c || c == '%'

/-- Whether a character ends an authority. -/
def endsAuthority (c : Char) : Bool := c == '/' || c == '?' || c == '#'

/-- How far the walk through an authority has come. -/
structure Scan where
  colons : Nat := 0
  opened : Bool := false
  closed : Bool := false
  percent : Bool := false
  afterAt : Bool := false

/-- The most colons in front of a closing bracket. -/
def mostColons : Nat := 8

/-- Walks through an authority. User names and bracketed addresses may hold colons and percent signs. -/
def scan : Scan → List Char → Except UriError Scan
  | s, [] => .ok s
  | s, c :: cs =>
    let s := { s with afterAt := false }
    if c = ':' then
      if mostColons ≤ s.colons then .error .invalidAuthority
      else scan { s with colons := s.colons + 1 } cs
    else if c = '[' then
      if s.percent || s.opened then .error .invalidAuthority else scan { s with opened := true } cs
    else if c = ']' then
      if !s.opened || s.closed then .error .invalidAuthority
      else scan { s with closed := true, colons := 0, percent := false } cs
    else if c = '@' then scan { s with colons := 0, percent := false, afterAt := true } cs
    else if c = '%' then scan { s with percent := true } cs
    else if isAuthorityChar c then scan s cs
    else .error .invalidCharacter

/-- Checks the authority at the front of a text, and gives the rest. -/
def authority (cs : List Char) : Except UriError (List Char) :=
  if cs = [] then .error .empty
  else
    match scan {} (cs.takeWhile (!endsAuthority ·)) with
    | .error e => .error e
    | .ok s =>
      if s.opened != s.closed || s.colons > 1 || s.afterAt || s.percent then
        .error .invalidAuthority
      else .ok (cs.dropWhile (!endsAuthority ·))

/-- Whether a character may stand in a path. -/
def isPathChar (c : Char) : Bool :=
  let n := c.toNat
  n == 0x21 || n == 0x22 || (0x24 ≤ n && n ≤ 0x3B) || n == 0x3D || (0x40 ≤ n && n ≤ 0x5F) ||
    (0x61 ≤ n && n ≤ 0x7E) || 0x80 ≤ n

/-- Whether a character may stand in a query. -/
def isQueryChar (c : Char) : Bool :=
  let n := c.toNat
  n == 0x21 || (0x24 ≤ n && n ≤ 0x3B) || n == 0x3D || (0x3F ≤ n && n ≤ 0x7E) || 0x80 ≤ n

/-- Checks a path and a query; what follows a number sign does not count. -/
def path (cs : List Char) : Except UriError Unit :=
  let cs := cs.takeWhile (· ≠ '#')
  if (cs.takeWhile (· ≠ '?')).all isPathChar && ((cs.dropWhile (· ≠ '?')).drop 1).all isQueryChar then
    .ok ()
  else .error .invalidCharacter

/-- Whether a character may stand in a scheme. -/
def isSchemeChar (c : Char) : Bool := isWordChar c || c == '+' || c == '-' || c == '.' || c == '~'

/-- The longest scheme. -/
def longestScheme : Nat := 64

/-- What follows the scheme, if there is one. A text of three characters has none. -/
def afterScheme? (cs : List Char) : Except UriError (Option (List Char)) :=
  match cs.dropWhile isSchemeChar with
  | ':' :: '/' :: '/' :: rest =>
    if cs.length ≤ 3 then .ok none
    else if longestScheme < (cs.takeWhile isSchemeChar).length then .error .schemeTooLong
    else .ok (some rest)
  | _ => .ok none

/-- The longest URI in bytes. -/
def longest : Nat := 65534

/-- Checks a URI. -/
def checkUri (s : String) : Except UriError Unit :=
  if longest < s.utf8ByteSize then .error .tooLong
  else
    match s.toList with
    | [] => .error .empty
    | ['*'] => .ok ()
    | '/' :: cs => path ('/' :: cs)
    | [c] => (authority [c]).bind fun rest => if rest = [] then .ok () else .error .invalidCharacter
    | cs => do
      match ← afterScheme? cs with
      | none => if (← authority cs) = [] then pure () else throw .invalidFormat
      | some cs =>
        let rest ← authority cs
        if rest.length = cs.length then throw .invalidFormat else path rest

/-- Whether a program can start with an endpoint. -/
def check (endpoint : String) : Except UriError Unit :=
  if endpoint = "" then .ok () else checkUri endpoint

end Endpoint

end Probe

end NamedLock
