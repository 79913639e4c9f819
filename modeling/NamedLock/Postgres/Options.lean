import NamedLock.Database.Error
import NamedLock.Postgres.Url
import NamedLock.Text.Quoted

/-!
# Options — what a connection string says

Where the server is, who logs in to which database, and how the connection is made. The parts of the URL come first;
the pairs of its query may override them. The first part that cannot be read decides the error.
-/

namespace NamedLock

namespace Postgres

/-- Whether and how a connection is encrypted. -/
inductive SslMode
  | disable
  | allow
  | prefer
  | require
  | verifyCa
  | verifyFull
  deriving DecidableEq, Repr

/-- The mode with this name, in any case. -/
def SslMode.ofName? (s : String) : Option SslMode :=
  match String.ofList (s.toList.map Char.toLower) with
  | "disable" => some disable
  | "allow" => some allow
  | "prefer" => some prefer
  | "require" => some require
  | "verify-ca" => some verifyCa
  | "verify-full" => some verifyFull
  | _ => none

/-- What a connection string says. -/
structure Options where
  host : String := "localhost"
  port : Nat := 5432
  user : Option String := none
  password : Option String := none
  database : Option String := none
  sslMode : SslMode := .prefer
  statementCacheCapacity : Nat := 100
  applicationName : Option String := none
  deriving DecidableEq, Repr

namespace Options

/-- Why a text is not an unsigned integer of a size. -/
inductive IntegerError
  | empty
  | invalidDigit
  | tooLarge
  deriving DecidableEq, Repr

/-- The message of an error. -/
def IntegerError.message : IntegerError → String
  | empty => "cannot parse integer from empty string"
  | invalidDigit => "invalid digit found in string"
  | tooLarge => "number too large to fit in target type"

/-- Adds digits to a number that has to stay below a bound. -/
def addDigits (bound : Nat) : Nat → List Char → Except IntegerError Nat
  | n, [] => .ok n
  | n, c :: cs =>
    if !Number.isDigit c then .error .invalidDigit
    else
      let m := n * 10 + Number.digitValue c
      if m < bound then addDigits bound m cs else .error .tooLarge

/-- An unsigned integer below a bound, with an optional plus sign. -/
def readInteger (bound : Nat) (s : String) : Except IntegerError Nat :=
  match s.toList with
  | [] => .error .empty
  | ['+'] => .error .invalidDigit
  | '+' :: cs => addDigits bound 0 cs
  | cs => addDigits bound 0 cs

/-- An unsigned integer in a connection string. -/
def integer (bound : Nat) (s : String) : Except DatabaseError Nat :=
  (readInteger bound s).mapError fun e => .configuration e.message

/-- A percent-encoded text that has to be UTF-8. -/
def decoded (cs : List Char) : Except DatabaseError String :=
  (Text.decodeUtf8 (Text.percentBytes cs)).mapError fun f => .configuration f.message

/-- A mode of encryption. -/
def sslModeOf (s : String) : Except DatabaseError SslMode :=
  match SslMode.ofName? s with
  | some m => .ok m
  | none =>
    .error (.badOption (.configuration ("unknown value " ++ Text.quote s ++ " for `ssl_mode`")))

/-- Applies one pair of the query. Names that mean nothing are passed over. -/
def applyPair (o : Options) (pair : String × String) : Except DatabaseError Options :=
  let value := pair.2
  match pair.1 with
  | "sslmode" => (sslModeOf value).map fun m => { o with sslMode := m }
  | "ssl-mode" => (sslModeOf value).map fun m => { o with sslMode := m }
  | "statement-cache-capacity" =>
    (integer (Number.pow2 64) value).map fun n => { o with statementCacheCapacity := n }
  | "host" => .ok { o with host := value }
  | "hostaddr" =>
    if Address.isAddress value.toList then .ok { o with host := value }
    else .error (.configuration "invalid IP address syntax")
  | "port" => (integer (Number.pow2 16) value).map fun n => { o with port := n }
  | "dbname" => .ok { o with database := some value }
  | "user" => .ok { o with user := some value }
  | "password" => .ok { o with password := some value }
  | "application_name" => .ok { o with applicationName := some value }
  | _ => .ok o

/-- The options of a URL. -/
def ofUrl (u : Url) : Except DatabaseError Options := do
  let host ← match u.host with
    | some h =>
      -- a host that starts with a slash once decoded is the directory of a socket
      if (Text.percentBytes h).head? = some '/'.toNat then decoded h else pure (String.ofList h)
    | none => pure "localhost"
  let user ← if u.username = [] then pure none else (decoded u.username).map some
  let password ← match u.password with
    | some p => (decoded p).map some
    | none => pure none
  let path := u.pathText
  let database ← if path = [] then pure none else (decoded path).map some
  let o : Options := { host, port := u.port.getD 5432, user, password, database }
  u.queryPairs.foldlM applyPair o

/-- Reads a connection string. -/
def parse (s : String) : Except DatabaseError Options :=
  match Url.parse s with
  | .ok u => ofUrl u
  | .error e => .error (.configuration e.message)

end Options

end Postgres

end NamedLock
