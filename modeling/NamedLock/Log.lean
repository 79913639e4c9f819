/-!
# Log — structured log events

An event has a level, the name of the part of the program that raised it, a message and fields. It may stand
inside a span, which has a name and fields of its own.
-/

namespace NamedLock

namespace Log

/-- How grave an event is. -/
inductive Level
  | error
  | warn
  | info
  | debug
  | trace
  deriving DecidableEq, Repr, Inhabited

namespace Level

/-- The label of a level. -/
def label : Level → String
  | error => "ERROR"
  | warn => "WARN"
  | info => "INFO"
  | debug => "DEBUG"
  | trace => "TRACE"

/-- How much is told: the gravest level tells least. -/
def detail : Level → Nat
  | error => 1
  | warn => 2
  | info => 3
  | debug => 4
  | trace => 5

end Level

/-- The value of a field. -/
inductive FieldValue
  | text (s : String)
  /-- A text that a plain line shows between quotes. -/
  | quoted (s : String)
  | number (n : Int)
  deriving DecidableEq, Repr

/-- Named values, in the order in which they are told. -/
abbrev Fields := List (String × FieldValue)

/-- The operation in which an event happens. -/
structure Span where
  name : String
  target : String
  fields : Fields
  deriving DecidableEq, Repr

/-- One event. -/
structure Event where
  level : Level
  target : String
  message : String
  fields : Fields
  span : Option Span
  deriving DecidableEq, Repr

end Log

end NamedLock
