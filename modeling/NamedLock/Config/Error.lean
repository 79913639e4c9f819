import NamedLock.Text.Quoted

/-!
# Error — what can be wrong with a configuration

Each cause with its message. A message names the key at fault and where its value came from, as far as they are
known.
-/

namespace NamedLock

/-- A configuration that cannot be used. -/
inductive ConfigError
  | frozen
  | notFound (key : String)
  | pathParse (reason : String)
  /-- A text that is not in its format. -/
  | fileParse (uri : Option String) (reason : String)
  /-- A value of a kind that its field does not take. -/
  | type (found expected : String) (key origin : Option String)
  /-- Another error, and where it arose. -/
  | located (inner : ConfigError) (key origin : Option String)
  | message (reason : String)
  | foreign (reason : String)
  deriving DecidableEq, Repr, Inhabited

namespace ConfigError

/-- The part of a message that names a key. -/
def keyNote : Option String → String
  | none => ""
  | some key => " for key `" ++ key ++ "`"

/-- The part of a message that names an origin. -/
def originNote : Option String → String
  | none => ""
  | some origin => " in " ++ origin

/-- The message of an error. -/
def text : ConfigError → String
  | frozen => "configuration is frozen"
  | notFound key => "missing configuration field " ++ Text.quote key
  | pathParse reason => reason
  | fileParse uri reason => reason ++ originNote uri
  | type found expected key origin =>
    "invalid type: " ++ found ++ ", expected " ++ expected ++ keyNote key ++ originNote origin
  | located inner key origin => inner.text ++ keyNote key ++ originNote origin
  | message reason => reason
  | foreign reason => reason

/-- A key inside a record: `outer.inner`, or `outer[0]` for a position. -/
def joinKey (outer : String) (inner : String) : String :=
  if inner.startsWith "[" then outer ++ inner else outer ++ "." ++ inner

/-- Puts the name of a record in front of the key of an error. -/
def inside (name : String) : ConfigError → ConfigError
  | type found expected key origin =>
    type found expected (some ((key.map (joinKey name)).getD name)) origin
  | located inner key origin => located inner (some ((key.map (joinKey name)).getD name)) origin
  | e => located e (some name) none

end ConfigError

end NamedLock
