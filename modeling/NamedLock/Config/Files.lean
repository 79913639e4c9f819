import NamedLock.Config.Error
import NamedLock.Config.Format

/-!
# Files — settings out of files

Files are what can be read at paths: a tree below the working directory, for one. A configuration file may be missing;
then the same name with the ending of a known format is tried. The ending of a file decides its format.
-/

namespace NamedLock

namespace Config

/-- A path as a list of names; `..` steps up. -/
structure FilePath where
  absolute : Bool
  names : List String
  deriving DecidableEq, Repr

namespace FilePath

/-- The names between slashes. A dot or an empty name stands for nothing. -/
def ofText (s : String) : FilePath where
  absolute := s.toList.head? == some '/'
  names := (s.splitOn "/").filter fun n => n != "" && n != "."

/-- A path below another one; an absolute path stands for itself. -/
def join (p q : FilePath) : FilePath :=
  if q.absolute then q else { p with names := p.names ++ q.names }

/-- The text of a path. -/
def text (p : FilePath) : String :=
  (if p.absolute then "/" else "") ++ String.intercalate "/" p.names

/-- The same path with a further ending on its last name. -/
def withEnding (p : FilePath) (ending : String) : FilePath :=
  match p.names.reverse with
  | [] => p
  | n :: ns => { p with names := ((n ++ "." ++ ending) :: ns).reverse }

/-- What follows the last dot of the last name, unless the name starts with that dot. -/
def ending? (p : FilePath) : Option String :=
  match p.names.getLast? with
  | none => none
  | some n =>
    match n.toList.reverse.dropWhile (· ≠ '.') with
    | _ :: _ :: _ => some (String.ofList (n.toList.reverse.takeWhile (· ≠ '.')).reverse)
    | _ => none

end FilePath

/-- The text of the file at a path, if there is one. -/
abbrev Files := FilePath → Option String

/-- The texts of files, by their names from the working directory. -/
abbrev FileTree := List (List String × String)

namespace FileTree

/-- A tree of files whose paths are given as texts. -/
def ofTexts (files : List (String × String)) : FileTree :=
  files.map fun f => ((FilePath.ofText f.1).names, f.2)

/-- Whether the tree has a directory of this name. -/
def hasDirectory (t : FileTree) (names : List String) : Bool :=
  names.isEmpty || t.any fun f => names.isPrefixOf f.1 && names.length < f.1.length

/-- Follows names down from a directory; a step up leaves a directory that exists. -/
def resolve? (t : FileTree) : List String → List String → Option (List String)
  | at_, [] => some at_
  | at_, n :: ns =>
    if n = ".." then
      match at_.getLast? with
      | some _ => if t.hasDirectory at_ then resolve? t at_.dropLast ns else none
      | none => none
    else resolve? t (at_ ++ [n]) ns

/-- The files of a tree. -/
def read? (t : FileTree) : Files := fun p =>
  if p.absolute then none
  else
    match resolve? t [] p.names with
    | some names => (t.find? (·.1 = names)).map (·.2)
    | none => none

end FileTree

/-! ## Finding and reading -/

/-- The paths that are tried when there is no file at a path, each with its format. -/
def furtherPaths (p : FilePath) : List (FilePath × Format) :=
  Format.all.flatMap fun f => f.endings.map fun e => (p.withEnding e, f)

/-- The file that a configuration path stands for: its path, its format and its text. -/
def findFile? (files : Files) (p : FilePath) : Option (FilePath × Format × String) :=
  match files p with
  | some s => (p.ending?.bind Format.ofEnding?).map fun f => (p, f, s)
  | none => (furtherPaths p).findSome? fun (q, f) => (files q).map fun s => (q, f, s)

/-- What every text of a syntax error says; the details are not told. -/
def syntaxError : String := "syntax error"

/-- The text without a byte order mark in front. -/
def dropMark (s : String) : String := String.ofList (Toml.dropByteOrderMark s.toList)

/-- The layer of a configuration file: empty when the file is missing. -/
def fileLayer (files : Files) (p : FilePath) : Except ConfigError Layer :=
  match findFile? files p with
  | none => .ok []
  | some (q, f, s) =>
    match f.parse? (some q.text) (dropMark s) with
    | some l => .ok l
    | none => .error (.fileParse (some q.text) syntaxError)

end Config

end NamedLock
