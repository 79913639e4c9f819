import NamedLock.Domain.Name
import NamedLock.Text.Percent

/-!
# Url — taking connection strings apart

A connection string is a URL: a scheme, then an authority with user, password, host and port, a path, a query
and a fragment. Tabs and line ends are passed over wherever they stand. Some schemes are special: a backslash counts
as a slash, the host may not be empty, and it must be a domain name or an address.
-/

namespace NamedLock

/-- Why a text is not a URL. -/
inductive UrlError
  | emptyHost
  | invalidDomainName
  | invalidPort
  | invalidIpv4
  | invalidIpv6
  | invalidDomainCharacter
  | noBase
  deriving DecidableEq, Repr

/-- The message of an error. -/
def UrlError.message : UrlError → String
  | emptyHost => "empty host"
  | invalidDomainName => "invalid international domain name"
  | invalidPort => "invalid port number"
  | invalidIpv4 => "invalid IPv4 address"
  | invalidIpv6 => "invalid IPv6 address"
  | invalidDomainCharacter => "invalid domain character"
  | noBase => "relative URL without a base"

/-- A URL in parts, percent-encoded as they stood. -/
structure Url where
  scheme : List Char
  username : List Char := []
  password : Option (List Char) := none
  host : Option (List Char) := none
  port : Option Nat := none
  /-- The segments of the path, without the slashes. -/
  path : List (List Char) := []
  query : Option (List Char) := none
  deriving DecidableEq, Repr

namespace Url

/-! ## Schemes -/

/-- What a scheme says about its URLs. -/
inductive SchemeKind
  | plain
  | special
  | file
  deriving DecidableEq, Repr

/-- The kind of a scheme. -/
def schemeKind (scheme : List Char) : SchemeKind :=
  let s := String.ofList scheme
  if s = "file" then .file
  else if s ∈ ["http", "https", "ws", "wss", "ftp"] then .special
  else .plain

/-- The port of a scheme that needs no mention. -/
def defaultPort? (scheme : List Char) : Option Nat :=
  match String.ofList scheme with
  | "http" => some 80
  | "ws" => some 80
  | "https" => some 443
  | "wss" => some 443
  | "ftp" => some 21
  | _ => none

/-- Whether a character is an ASCII letter. -/
def isLetter (c : Char) : Bool := ('a' ≤ c && c ≤ 'z') || ('A' ≤ c && c ≤ 'Z')

/-- Whether a character may stand in a scheme. -/
def isSchemeChar (c : Char) : Bool := isLetter c || Number.isDigit c || c == '+' || c == '-' || c == '.'

/-- Takes a scheme and its colon off the front. -/
def scheme? (cs : List Char) : Option (List Char × List Char) :=
  match cs with
  | [] => none
  | c :: _ =>
    if isLetter c then
      match cs.dropWhile isSchemeChar with
      | ':' :: rest => some ((cs.takeWhile isSchemeChar).map Char.toLower, rest)
      | _ => none
    else none

/-! ## Authority -/

/-- Whether a character ends the authority. -/
def endsAuthority (kind : SchemeKind) (c : Char) : Bool :=
  c == '/' || c == '?' || c == '#' || (c == '\\' && kind != .plain)

/-- Cuts at the last `@`, when there is one. -/
def cutAtLastAt? (cs : List Char) : Option (List Char × List Char) :=
  match cs.reverse.dropWhile (· ≠ '@') with
  | [] => none
  | _ :: front => some (front.reverse, (cs.reverse.takeWhile (· ≠ '@')).reverse)

/-- User and password: the password follows the first colon, and an empty one is none. -/
def splitUserinfo (cs : List Char) : List Char × Option (List Char) :=
  match cs.dropWhile (· ≠ ':') with
  | _ :: c :: password => (cs.takeWhile (· ≠ ':'), some (c :: password))
  | _ => (cs.takeWhile (· ≠ ':'), none)

/-- The host and what follows it: a colon outside brackets ends it. -/
def splitHost : Bool → List Char → List Char × List Char
  | _, [] => ([], [])
  | inside, c :: cs =>
    if c = ':' ∧ inside = false then ([], c :: cs)
    else
      let inside := if c = '[' then true else if c = ']' then false else inside
      let (host, rest) := splitHost inside cs
      (c :: host, rest)

/-- A port behind a colon, and what follows it: digits, or nothing. A backslash ends it. -/
def splitPort (cs : List Char) : Except UrlError (Option Nat × List Char) :=
  let digits := cs.takeWhile Number.isDigit
  let rest := cs.dropWhile Number.isDigit
  let n := Number.ofDigits 10 digits
  if rest.head?.any (· ≠ '\\') || Number.pow2 16 ≤ n then .error .invalidPort
  else .ok (if digits = [] then none else some n, rest)

/-- Characters that no host contains. -/
def hostStops : List Char :=
  ['\x00', '\t', '\n', '\r', ' ', '#', '/', ':', '<', '>', '?', '@', '[', '\\', ']', '^', '|']

/-- Checks a host in brackets. -/
def checkBrackets (host : List Char) : Except UrlError Unit :=
  match host.reverse with
  | ']' :: inner =>
    if Address.isEightGroups (inner.reverse.drop 1) then .ok () else .error .invalidIpv6
  | _ => .error .invalidIpv6

/-- A number in an address of the old kind: octal after a zero, hexadecimal after `0x`. -/
def oldNumber? (cs : List Char) : Option Nat :=
  let based (base : Nat) (ds : List Char) : Option Nat :=
    if ds.all fun c => Text.isHexChar c && Number.digitValue c < base then
      some (Number.ofDigits base ds)
    else none
  match cs with
  | [] => none
  | '0' :: 'x' :: ds => based 16 ds
  | '0' :: 'X' :: ds => based 16 ds
  | '0' :: d :: ds => based 8 (d :: ds)
  | ds => based 10 ds

/-- The labels of a name, without an empty one at the end. -/
def withoutLastDot (labels : List (List Char)) : List (List Char) :=
  match labels.reverse with
  | [] :: l :: rest => (l :: rest).reverse
  | _ => labels

/-- Whether a name is meant to be an address: its last label is a number. -/
def endsInNumber (labels : List (List Char)) : Bool :=
  match labels.getLast? with
  | none => false
  | some l => l != [] && (l.all Number.isDigit || (oldNumber? l).isSome)

/-- Whether a name is an address of at most four numbers, the last of which fills the remaining bytes. -/
def isOldAddress (labels : List (List Char)) : Bool :=
  match labels.mapM oldNumber? with
  | none => false
  | some ns =>
    match ns.reverse with
    | last :: front => ns.length ≤ 4 && front.all (· ≤ 255) && last < Number.pow2 (8 * (5 - ns.length))
    | [] => false

/-- Checks the host of a special scheme: a domain name, or an address in its place. -/
def checkDomain (host : List Char) : Except UrlError Unit :=
  match Text.decodeUtf8 (Text.percentBytes host) with
  | .error _ => .error .invalidDomainName
  | .ok name =>
    match Domain.labels? name.toList with
    | none => .error .invalidDomainName
    | some labels =>
      if labels = [[]] then .error .emptyHost
      else
        let labels := withoutLastDot labels
        if endsInNumber labels && !isOldAddress labels then .error .invalidIpv4 else .ok ()

/-- Checks a host. -/
def checkHost (kind : SchemeKind) (host : List Char) : Except UrlError Unit :=
  if kind = .special ∧ host = [] then .error .emptyHost
  else if host.head? = some '[' then checkBrackets host
  else if kind = .plain then
    if host.any hostStops.contains then .error .invalidDomainCharacter else .ok ()
  else if host = [] then .ok ()
  else checkDomain host

/-- Reads an authority, and what of it belongs to the path; `isLast` says whether nothing follows it. -/
def authority (u : Url) (kind : SchemeKind) (isLast : Bool) (cs : List Char) :
    Except UrlError (Url × List Char) := do
  let (userinfo, rest) := (cutAtLastAt? cs).getD ([], cs)
  if cs = ['@'] ∧ isLast = false then throw .emptyHost
  let (username, password) := splitUserinfo userinfo
  let (host, rest) := splitHost false rest
  checkHost kind host
  if host = [] ∧ rest ≠ [] then throw .emptyHost
  let (port, rest) ← splitPort (rest.drop 1)
  if host = [] ∧ (username ≠ [] ∨ password.isSome) then throw .emptyHost
  pure ({ u with
    username, password
    host := if host = [] then none else some host
    port := if port = defaultPort? u.scheme then none else port }, rest)

/-! ## Path and query -/

/-- Whether a segment stands for its own directory. -/
def isDot (s : List Char) : Bool :=
  let t := s.map Char.toLower
  t == ['.'] || t == ['%', '2', 'e']

/-- Whether a segment stands for the directory above. -/
def isDotDot (s : List Char) : Bool :=
  let t := s.map Char.toLower
  t == ['.', '.'] || t == ['%', '2', 'e', '.'] || t == ['.', '%', '2', 'e'] ||
    t == ['%', '2', 'e', '%', '2', 'e']

/-- Whether a segment starts with the letter of a drive. -/
def isDrive (s : List Char) : Bool :=
  match s with
  | c :: d :: rest => isLetter c && (d == ':' || d == '|') && (rest = [] || rest.head? = some '\\')
  | _ => false

/-- One step up. A drive is never left. -/
def stepUp (done : List (List Char)) : List (List Char) :=
  if done.getLast?.any isDrive then done else done.dropLast

/-- Carries out the steps that segments stand for. -/
def walk : List (List Char) → List (List Char) → List (List Char)
  | done, [] => done
  | done, s :: ss =>
    if isDotDot s then walk (if ss = [] then stepUp done ++ [[]] else stepUp done) ss
    else if isDot s then walk (if ss = [] then done ++ [[]] else done) ss
    else walk (done ++ [s]) ss

/-- The segments of a path. -/
def segments (kind : SchemeKind) (cs : List Char) : List (List Char) :=
  let cs := if kind = .plain then cs else cs.map fun c => if c = '\\' then '/' else c
  match cs with
  | [] => []
  | '/' :: cs => walk [] (Address.splitAt '/' cs)
  | cs => walk [] (Address.splitAt '/' cs)

/-- Adds path and query; `read` takes the path apart. -/
def withParts (u : Url) (read : List Char → List (List Char)) (cs : List Char) : Url :=
  let cs := cs.takeWhile (· ≠ '#')
  let query := match cs.dropWhile (· ≠ '?') with
    | _ :: q => some q
    | [] => none
  { u with path := read (cs.takeWhile (· ≠ '?')), query }

/-- Adds path and query. -/
def withTail (u : Url) (kind : SchemeKind) (cs : List Char) : Url := u.withParts (segments kind) cs

/-- Adds a path that does not start at a root, and the query. Its segments stand for themselves. -/
def withRootlessTail (u : Url) (cs : List Char) : Url := u.withParts (Address.splitAt '/') cs

/-! ## The whole -/

/-- Whether a character is trimmed off the ends. -/
def isTrimmed (c : Char) : Bool := c.toNat ≤ 32

/-- The text without controls and blanks at its ends, and without tabs and line ends. -/
def clean (s : String) : List Char :=
  let cs := ((s.toList.dropWhile isTrimmed).reverse.dropWhile isTrimmed).reverse
  cs.filter fun c => c != '\t' && c != '\n' && c != '\r'

/-- Reads what follows the slashes in front of an authority. -/
def afterSlashes (u : Url) (kind : SchemeKind) (cs : List Char) : Except UrlError Url := do
  let rest := cs.dropWhile (!endsAuthority kind ·)
  let (u, more) ← authority u kind rest.isEmpty (cs.takeWhile (!endsAuthority kind ·))
  pure (u.withTail kind (more ++ rest))

/-- Reads what follows the slashes in front of the host of a file. There is neither user nor port. -/
def afterFileSlashes (u : Url) (cs : List Char) : Except UrlError Url := do
  let host := cs.takeWhile (!endsAuthority .file ·)
  let rest := cs.dropWhile (!endsAuthority .file ·)
  if host.length = 2 && isDrive host then pure (u.withTail .file cs)
  else
    checkHost .file host
    pure ({ u with host := if host = [] then none else some host }.withTail .file rest)

/-- Whether a character is a slash in a special scheme. -/
def isSlash (c : Char) : Bool := c == '/' || c == '\\'

/-- Reads a URL. -/
def parse (s : String) : Except UrlError Url :=
  match scheme? (clean s) with
  | none => .error .noBase
  | some (scheme, cs) =>
    let u : Url := { scheme }
    match schemeKind scheme with
    | .special => afterSlashes u .special (cs.dropWhile isSlash)
    | .file =>
      match cs with
      | c :: d :: rest =>
        if isSlash c && isSlash d then afterFileSlashes u rest else .ok (u.withTail .file cs)
      | cs => .ok (u.withTail .file cs)
    | .plain =>
      match cs with
      | '/' :: '/' :: cs => afterSlashes u .plain cs
      | '/' :: cs => .ok (u.withTail .plain ('/' :: cs))
      | cs => .ok (u.withRootlessTail cs)

/-! ## Views -/

/-- The path without the slashes in front. -/
def pathText (u : Url) : List Char :=
  ((u.path.intersperse ['/']).flatten).dropWhile (· == '/')

/-- A text of a query: a plus sign stands for a blank. -/
def queryText (cs : List Char) : String :=
  Text.decodeLossy (Text.percentBytes (cs.map fun c => if c = '+' then ' ' else c))

/-- The names and values of the query, in order. -/
def queryPairs (u : Url) : List (String × String) :=
  ((Address.splitAt '&' (u.query.getD [])).filter (· ≠ [])).map fun pair =>
    (queryText (pair.takeWhile (· ≠ '=')), queryText ((pair.dropWhile (· ≠ '=')).drop 1))

end Url

end NamedLock
