import NamedLock.Config.Layers
import NamedLock.Number.Decimal
import NamedLock.Text.Case

/-!
# Environment — settings out of environment variables

A variable counts when its name starts with `LOCK_`, in any case. Two underscores in the rest of the name stand for a
dot. The text of a variable is taken for a truth value, an integer or a number when it reads as one.
-/

namespace NamedLock

namespace Config

namespace Environment

/-- Environment variables by name. -/
abbrev Variables := List (String × String)

/-- The text of a variable. -/
def lookup? (vs : Variables) (name : String) : Option String := Keyed.get? vs name

/-- What names of settings start with, in lower case. -/
def keyHead : List Char := ['l', 'o', 'c', 'k', '_']

/-- The origin of values out of the environment. -/
def origin : String := "the environment"

/-- A name with a dot for every two underscores, from the left. -/
def dotted : List Char → List Char
  | [] => []
  | [c] => [c]
  | c :: d :: cs => if c = '_' ∧ d = '_' then '.' :: dotted cs else c :: dotted (d :: cs)

/-- The key of the setting that a variable sets. -/
def key? (name : String) : Option String :=
  let small := (Text.lower name).toList
  if keyHead.isPrefixOf small then some (String.ofList (dotted (small.drop keyHead.length)))
  else none

/-- What the text of a variable reads as. -/
def guess (s : String) : Scalar :=
  let small := Text.lower s
  if small = "true" then .boolean true
  else if small = "false" then .boolean false
  else
    match Number.readSigned64? s with
    | some n => .integer n
    | none =>
      match Number.readReal? s with
      | some x => .real x
      | none => .text s

/-- The settings that variables set. -/
def layer (vs : Variables) : Layer :=
  vs.filterMap fun v => (key? v.1).map fun k => (k, .scalar (guess v.2) (some origin))

end Environment

end Config

end NamedLock
