import NamedLock.Log
import NamedLock.Probe.Pattern

/-!
# Filter — which log lines are shown

A filter is a list of directives with commas between them. A directive names a level, a part of the program, or
both; it may also name a span and a field of it. Of the directives that fit an event, the one that names the longest
part decides. Nothing is told beyond the level of the most talkative directive.
-/

namespace NamedLock

namespace Probe

/-- How much is shown: nothing, or everything down to a level. -/
abbrev Verbosity := Option Log.Level

/-- Whether a level is shown. -/
def shows (v : Verbosity) (l : Log.Level) : Bool :=
  match v with
  | none => false
  | some most => l.detail ≤ most.detail

/-- The more talkative of two verbosities. -/
def louder (v w : Verbosity) : Verbosity :=
  match v, w with
  | none, w => w
  | v, none => v
  | some a, some b => some (if a.detail < b.detail then b else a)

/-- The value that a directive asks of a field. -/
inductive Wanted
  | boolean (b : Bool)
  | natural (n : Nat)
  | integer (n : Int)
  | real (x : Binary64)
  | pattern (s : String)
  deriving DecidableEq, Repr

/-- A rule of a filter. -/
structure Directive where
  target : Option String := none
  span : Option String := none
  /-- Names of fields, with the values that are asked of them. -/
  fields : List (String × Option Wanted) := []
  verbosity : Verbosity := some .trace
  deriving DecidableEq, Repr

/-- Directives by what they apply to. -/
structure Filter where
  /-- Rules for parts of the program. -/
  ofTargets : List Directive
  /-- Rules for spans. -/
  ofSpans : List Directive
  /-- Beyond this nothing is told. -/
  reach : Verbosity
  deriving DecidableEq, Repr

/-! ## Reading -/

/-- The verbosity with this number or name; names are read in any case. -/
def readVerbosity? (s : String) : Option Verbosity :=
  match Number.readUnsigned? (Number.pow2 64) s with
  | some 0 => some none
  | some 1 => some (some .error)
  | some 2 => some (some .warn)
  | some 3 => some (some .info)
  | some 4 => some (some .debug)
  | some 5 => some (some .trace)
  | _ =>
    match String.ofList (s.toList.map Char.toLower) with
    | "" => some (some .error)
    | "error" => some (some .error)
    | "warn" => some (some .warn)
    | "info" => some (some .info)
    | "debug" => some (some .debug)
    | "trace" => some (some .trace)
    | "off" => some none
    | _ => none

/-- The directive of one word: a verbosity, or else a part of the program, of which everything is shown. -/
def ofWord (w : String) : Directive :=
  if w = "" then {}
  else
    match readVerbosity? w with
    | some v => { verbosity := v }
    | none => { target := some w }

/-- A directive with a verbosity; nothing behind the sign asks for everything. -/
def withVerbosity? (d : Directive) (w : String) : Option Directive :=
  if w = "" then some d else (readVerbosity? w).map fun v => { d with verbosity := v }

/-- A value that is asked of a field: a truth value, a number, or else a regular expression. -/
def readWanted? (s : String) : Option Wanted :=
  if s = "true" then some (.boolean true)
  else if s = "false" then some (.boolean false)
  else
    match Number.readUnsigned? (Number.pow2 64) s with
    | some n => some (.natural n)
    | none =>
      match Number.readSigned64? s with
      | some n => some (.integer n)
      | none =>
        match Number.readReal? s with
        | some x => some (.real x)
        | none => if Pattern.isPattern s.toList then some (.pattern s) else none

/-- A field of a directive, with or without a value. What follows a second equals sign does not count. -/
def readField? (cs : List Char) : Option (String × Option Wanted) :=
  if cs = [] then none
  else
    let name := String.ofList (cs.takeWhile (· ≠ '='))
    match cs.dropWhile (· ≠ '=') with
    | [] => some (name, none)
    | _ :: rest =>
      (readWanted? (String.ofList (rest.takeWhile (· ≠ '=')))).map fun w => (name, some w)

/-- The characters from one position up to another. -/
def cut (cs : List Char) (start stop : Nat) : List Char := (cs.drop start).take (stop - start)

/-- The position of the first character at or after `start` that satisfies `p`, and that character. -/
def findFrom? (cs : List Char) (start : Nat) (p : Char → Bool) : Option (Nat × Char) :=
  match (cs.drop start).dropWhile (!p ·) with
  | c :: _ => some (start + ((cs.drop start).takeWhile (!p ·)).length, c)
  | [] => none

/-- A directive as it stands, and as it is read: without the blanks at its ends. Positions are found in
what is read, and pieces are cut out of what stands. -/
structure Written where
  stands : List Char
  isRead : List Char

namespace Written

/-- A piece of a directive. -/
def piece (w : Written) (start stop : Nat) : String := String.ofList (cut w.stands start stop)

/-- The last piece of a directive. -/
def lastPiece (w : Written) (start : Nat) : String := String.ofList (w.stands.drop start)

/-- The end of a directive, after the closing bracket of a span. -/
def afterSpan? (w : Written) (d : Directive) (start : Nat) : Option Directive :=
  match w.isRead.drop start with
  | [] => some d
  | '=' :: _ => withVerbosity? d (w.lastPiece (start + 1))
  | _ => none

/-- A directive from the name of a span on. -/
def fromSpan? (w : Written) (target : Option String) (start : Nat) : Option Directive :=
  match findFrom? w.isRead start fun c => c == ']' || c == '\x7b' with
  | some (i, ']') =>
    w.afterSpan? { target, span := some (w.piece start i) } (i + 1)
  | some (i, _) =>
    let name := w.piece start i
    match findFrom? w.isRead (i + 1) (· == '\x7d') with
    | some (j, _) =>
      match readField? (cut w.stands (i + 1) j), w.isRead.drop (j + 1) with
      | some field, ']' :: _ =>
        w.afterSpan?
          { target, span := if name = "" then none else some name, fields := [field] } (j + 2)
      | _, _ => none
    | none => none
  | none => none

end Written

/-- Whether a directive may start with this character. -/
def startsDirective (c : Char) : Bool := c == '-' || c == ':' || c == '_' || Text.isAlphanumeric c

/-- The characters without blanks at either end. -/
def trimmed (cs : List Char) : List Char :=
  ((cs.dropWhile Text.isBlank).reverse.dropWhile Text.isBlank).reverse

/-- Reads a directive. -/
def readDirective? (cs : List Char) : Option Directive :=
  let w : Written := { stands := cs, isRead := trimmed cs }
  match w.isRead with
  | [] => none
  | '[' :: _ => w.fromSpan? none 1
  | c :: _ =>
    if startsDirective c then
      match findFrom? w.isRead 0 fun c => c == '=' || c == '[' with
      | none => some (ofWord (w.lastPiece 0))
      | some (i, '=') => withVerbosity? { target := some (w.piece 0 i) } (w.lastPiece (i + 1))
      | some (i, _) => w.fromSpan? (some (w.piece 0 i)) (i + 1)
    else none

/-- Whether two directives apply to the same parts. -/
def sameScope (a b : Directive) : Bool := a.target == b.target && a.span == b.span && a.fields == b.fields

/-- Adds a directive; it replaces one for the same parts. -/
def addDirective (ds : List Directive) (d : Directive) : List Directive :=
  ds.filter (!sameScope · d) ++ [d]

/-- Whether a directive asks for the value of a field. -/
def Directive.asksValue (d : Directive) : Bool := d.fields.any (·.2.isSome)

/-- The filter of directives. Without any, errors are shown. Where values decide, they have to be told first, so
nothing is out of reach. -/
def Filter.ofDirectives (ds : List Directive) : Filter :=
  let ds := if ds = [] then [{ verbosity := some .error }] else ds
  { ofTargets := (ds.filter fun d => d.span.isNone && !d.asksValue).foldl addDirective []
    ofSpans := (ds.filter fun d => d.span.isSome || d.fields != []).foldl addDirective []
    reach :=
      if ds.any (·.asksValue) then some .trace
      else (ds.map (·.verbosity)).foldl louder none }

/-- Reads a filter. -/
def Filter.parse? (s : String) : Option Filter :=
  let words := (s.splitOn ",").filter (· ≠ "")
  (words.mapM fun w => readDirective? w.toList).map Filter.ofDirectives

/-- The filter of a program: the text of the environment, if it is a filter, or else the text of the
settings, or else `info`. -/
def Filter.choose (ofEnvironment : Option String) (ofSettings : String) : Filter :=
  ((ofEnvironment.bind Filter.parse?).or (Filter.parse? ofSettings)).getD
    (Filter.ofDirectives [{ verbosity := some .info }])

/-! ## Deciding -/

/-- Whether a directive is about a part of the program. -/
def Directive.fits (d : Directive) (target : String) : Bool :=
  match d.target with
  | some t => target.startsWith t
  | none => true

/-- How much of a part a directive names. -/
def Directive.weight (d : Directive) : Nat × Nat :=
  (match d.target with
    | some t => t.utf8ByteSize + 1
    | none => 0,
    d.fields.length)

/-- Whether the first directive goes before the second: by the part it names, then by the number of its fields,
then by their names. -/
def Directive.outweighs (a b : Directive) : Bool :=
  let (m, j) := a.weight
  let (n, k) := b.weight
  if m ≠ n then m > n
  else if j ≠ k then j > k
  else decide (b.fields.map (·.1) < a.fields.map (·.1))

/-- The directive that decides. -/
def heaviest? : List Directive → Option Directive
  | [] => none
  | d :: ds =>
    match heaviest? ds with
    | none => some d
    | some e => if d.outweighs e then some d else some e

/-- Whether the directive that decides shows a level. -/
def decides (ds : List Directive) (level : Log.Level) : Bool :=
  match heaviest? ds with
  | some d => shows d.verbosity level
  | none => false

/-- Whether a rule for spans is about this span. -/
def Directive.fitsSpan (d : Directive) (s : Log.Span) : Bool :=
  d.fits s.target && (d.span.all (· == s.name)) &&
    d.fields.all fun x => s.fields.any (·.1 == x.1)

/-- Whether the value of a field is the one that is asked for. Texts are not held against regular expressions: they
are taken to fit. -/
def Wanted.fits : Wanted → Log.FieldValue → Bool
  | natural n, .number m => m == n
  | pattern _, .text _ => true
  | pattern _, .quoted _ => true
  | _, _ => false

/-- Whether the fields of a span have the values that a rule asks for. -/
def Directive.fitsValues (d : Directive) (s : Log.Span) : Bool :=
  d.fields.all fun x =>
    match x.2 with
    | none => true
    | some w => s.fields.any fun y => y.1 == x.1 && w.fits y.2

/-- Whether a span is shown. A rule about it is enough, whatever it says: what the rule allows inside depends on
values that only the span itself can tell. Rules for parts of the program hold for spans whatever fields they name. -/
def Filter.allowsSpan (f : Filter) (s : Log.Span) : Bool :=
  shows f.reach .info &&
    (f.ofSpans.any (·.fitsSpan s) || decides (f.ofTargets.filter (·.fits s.target)) .info)

/-- Whether an event is shown: on its own account, or because of its span. -/
def Filter.allowsEvent (f : Filter) (e : Log.Event) : Bool :=
  let names := "message" :: e.fields.map (·.1)
  (match e.span with
    | some s =>
      f.allowsSpan s && f.ofSpans.any fun d => d.fitsSpan s && d.fitsValues s && shows d.verbosity e.level
    | none => false) ||
    decides (f.ofTargets.filter fun d => d.fits e.target && d.fields.all fun x => names.contains x.1) e.level

end Probe

end NamedLock
