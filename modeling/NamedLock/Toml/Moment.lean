import NamedLock.Number.Shortest
import NamedLock.Number.Decimal

/-!
# Moment — dates and times in TOML

A date, a time of day, or a date with a time and perhaps an offset from universal time. A moment is written
back in one form: a `T` between date and time, a fraction without zeros at the end, `Z` or a signed offset.
-/

namespace NamedLock

namespace Toml

/-- A day of the calendar. -/
structure Date where
  year : Nat
  month : Nat
  day : Nat
  deriving DecidableEq, Repr

/-- A time of day; a fraction is kept in nanoseconds. -/
structure Time where
  hour : Nat
  minute : Nat
  second : Option Nat
  nanosecond : Option Nat
  deriving DecidableEq, Repr

/-- The distance from universal time. -/
inductive Offset
  | universal
  /-- So many minutes, positive to the east. -/
  | custom (minutes : Int)
  deriving DecidableEq, Repr

/-- A date, a time, or both. -/
inductive Moment
  | date (d : Date)
  | time (t : Time)
  | full (d : Date) (t : Time) (o : Option Offset)
  deriving DecidableEq, Repr

namespace Moment

/-! ## Calendar -/

/-- Whether the year has a 29th of February. -/
def isLeap (year : Nat) : Bool := year % 4 == 0 && (year % 100 != 0 || year % 400 == 0)

/-- How many days a month has. -/
def daysIn (year month : Nat) : Nat :=
  if month = 2 then if isLeap year then 29 else 28
  else if month = 4 ∨ month = 6 ∨ month = 9 ∨ month = 11 then 30
  else 31

/-- Whether the calendar has this day. -/
def isValidDate (d : Date) : Bool :=
  1 ≤ d.month && d.month ≤ 12 && 1 ≤ d.day && d.day ≤ daysIn d.year d.month

/-- Whether a clock can show this time; a leap second is allowed. -/
def isValidTime (t : Time) : Bool :=
  t.hour ≤ 23 && t.minute ≤ 59 && (t.second.all fun s => decide (s ≤ 60))

/-! ## Reading -/

/-- Takes `n` digits off the front. -/
def digits? (n : Nat) (cs : List Char) : Option (Nat × List Char) :=
  let ds := cs.take n
  if ds.length = n ∧ ds.all Number.isDigit then some (Number.ofDigits 10 ds, cs.drop n) else none

/-- Takes one character off the front. -/
def skip? (c : Char) : List Char → Option (List Char)
  | [] => none
  | d :: cs => if d = c then some cs else none

/-- Takes a date off the front. -/
def date? (cs : List Char) : Option (Date × List Char) := do
  let (year, cs) ← digits? 4 cs
  let cs ← skip? '-' cs
  let (month, cs) ← digits? 2 cs
  let cs ← skip? '-' cs
  let (day, cs) ← digits? 2 cs
  let d : Date := { year, month, day }
  if isValidDate d then some (d, cs) else none

/-- The nanoseconds of a fraction: nine digits count, further ones are dropped. -/
def nanoseconds (ds : List Char) : Nat :=
  Number.ofDigits 10 ((ds ++ Number.zeros 9).take 9)

/-- Takes a time off the front. Seconds may be left out, and a fraction needs seconds. -/
def time? (cs : List Char) : Option (Time × List Char) := do
  let (hour, cs) ← digits? 2 cs
  let cs ← skip? ':' cs
  let (minute, cs) ← digits? 2 cs
  let (second, cs) ← match cs with
    | ':' :: cs => (digits? 2 cs).map fun r => (some r.1, r.2)
    | cs => some (none, cs)
  let (nanosecond, cs) ← match second, cs with
    | some _, '.' :: cs =>
      let ds := cs.takeWhile Number.isDigit
      if ds = [] then none else some (some (nanoseconds ds), cs.dropWhile Number.isDigit)
    | _, cs => some (none, cs)
  let t : Time := { hour, minute, second, nanosecond }
  if isValidTime t then some (t, cs) else none

/-- Takes an offset off the front. -/
def offset? : List Char → Option (Offset × List Char)
  | 'Z' :: cs => some (.universal, cs)
  | 'z' :: cs => some (.universal, cs)
  | c :: cs => do
    if c ≠ '+' ∧ c ≠ '-' then none
    let (hours, cs) ← digits? 2 cs
    let cs ← skip? ':' cs
    let (minutes, cs) ← digits? 2 cs
    let distance : Int := hours * 60 + minutes
    if hours ≤ 23 ∧ minutes ≤ 59 then some (.custom (if c = '-' then -distance else distance), cs)
    else none
  | [] => none

/-- Reads a text that is a moment and nothing else. -/
def parse? (cs : List Char) : Option Moment :=
  match date? cs with
  | some (d, []) => some (.date d)
  | some (d, c :: cs) => do
    if c ≠ 'T' ∧ c ≠ 't' ∧ c ≠ ' ' then none
    let (t, cs) ← time? cs
    match cs with
    | [] => some (.full d t none)
    | cs =>
      match offset? cs with
      | some (o, []) => some (.full d t (some o))
      | _ => none
  | none =>
    match time? cs with
    | some (t, []) => some (.time t)
    | _ => none

/-! ## Writing -/

/-- A number of at least `width` digits. -/
def padded (width n : Nat) : List Char :=
  let ds := Nat.toDigits 10 n
  Number.zeros (width - ds.length) ++ ds

/-- Year, month and day. -/
def writeDate (d : Date) : List Char :=
  padded 4 d.year ++ '-' :: padded 2 d.month ++ '-' :: padded 2 d.day

/-- A fraction of a second: the digits without zeros at the end, one zero at least. -/
def writeFraction (nanosecond : Nat) : List Char :=
  match ((padded 9 nanosecond).reverse.dropWhile (· == '0')).reverse with
  | [] => ['.', '0']
  | ds => '.' :: ds

/-- Hour, minute and what follows, as far as it was given. -/
def writeTime (t : Time) : List Char :=
  padded 2 t.hour ++ ':' :: padded 2 t.minute ++
    (match t.second with
      | some s => ':' :: padded 2 s
      | none => []) ++
    (match t.nanosecond with
      | some n => writeFraction n
      | none => [])

/-- `Z`, or a sign, hours and minutes. No distance has a plus sign. -/
def writeOffset : Offset → List Char
  | .universal => ['Z']
  | .custom minutes =>
    let n := minutes.natAbs
    (if minutes < 0 then '-' else '+') :: padded 2 (n / 60) ++ ':' :: padded 2 (n % 60)

/-- The text of a moment. -/
def write : Moment → List Char
  | date d => writeDate d
  | time t => writeTime t
  | full d t o =>
    writeDate d ++ 'T' :: writeTime t ++
      (match o with
        | some o => writeOffset o
        | none => [])

end Moment

end Toml

end NamedLock
