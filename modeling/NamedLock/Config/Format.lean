import NamedLock.Config.Layers
import NamedLock.Corn.Reader
import NamedLock.Json.Reader
import NamedLock.Json.Relaxed
import NamedLock.Toml.Reader
import NamedLock.Yaml.Node

/-!
# Format — formats of configuration files

Settings can be written in several formats. Whatever the format, a file holds one table; a text that holds
anything else is refused.
-/

namespace NamedLock

namespace Config

/-- A format of configuration files. -/
inductive Format
  | toml
  | json
  | yaml
  | ini
  | ron
  | json5
  | corn
  deriving DecidableEq, Repr

/-- The entries of a table; any other value is refused. -/
def Value.tableEntries? : Value → Option Layer
  | .table es _ => some es
  | _ => none

namespace Format

/-- Every format, in the order in which endings are tried. -/
def all : List Format := [toml, json, yaml, ini, ron, json5, corn]

/-- The endings of files in a format. -/
def endings : Format → List String
  | toml => ["toml"]
  | json => ["json"]
  | yaml => ["yaml", "yml"]
  | ini => ["ini"]
  | ron => ["ron"]
  | json5 => ["json5"]
  | corn => ["corn"]

/-- The format of files with this ending. -/
def ofEnding? (e : String) : Option Format := all.find? (·.endings.contains e)

/-- The entries of an object; any other value is refused. -/
def objectLayer? (o : Origin) : Json.Value → Option Layer
  | .object ms => some (Value.entriesOfJson o (Json.sortedMembers ms))
  | _ => none

/-- The entries of the only document of a text; without any, there are none. -/
def documentLayer? (o : Origin) : List Yaml.Value → Option Layer
  | [] => some []
  | [v] => (Value.ofYaml? o v).bind Value.tableEntries?
  | _ => none

/-- Reads a text; `none` when it is not in the format or does not hold a table. -/
def parse? (f : Format) (o : Origin) (s : String) : Option Layer :=
  match f with
  | toml => (Toml.parse? s).map (Value.entriesOfToml o)
  | json => (Json.parse? s).bind (objectLayer? o)
  | yaml => (Yaml.parse? s).bind (documentLayer? o)
  | ini => (Ini.parse? s).map (Value.entriesOfIni o)
  | ron => (Ron.parse? s).bind fun v => (Value.ofRon? o v).bind Value.tableEntries?
  | json5 => (Json.Relaxed.parse? s).bind (objectLayer? o)
  | corn => (Corn.parse? s).bind (objectLayer? o)

end Format

end Config

end NamedLock
