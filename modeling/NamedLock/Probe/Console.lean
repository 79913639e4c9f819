import NamedLock.Json.Printer
import NamedLock.Log

/-!
# Console — how log events are written

Plain lines give level, span, part of the program, message and fields. Records give the same as one JSON object
a line, and also tell when a span ends. Controls that a terminal might obey are spelled out in plain lines.
-/

namespace NamedLock

namespace Probe

/-- Something to be told. -/
inductive Notice
  | event (e : Log.Event)
  /-- A span has ended. -/
  | closed (s : Log.Span)
  deriving DecidableEq, Repr

/-- Something that was written. -/
inductive ConsoleLine
  | text (s : String)
  | record (v : Json.Value)

/-- The form of the log. -/
inductive LogForm
  | plain
  | records
  deriving DecidableEq, Repr

/-! ## Plain lines -/

/-- How a plain line shows a character. -/
def showChar (c : Char) : List Char :=
  let n := c.toNat
  if n = 0x1b ∨ n = 0x07 ∨ n = 0x08 ∨ n = 0x0c ∨ n = 0x7f then '\\' :: 'x' :: Uuid.hexDigits 2 n
  else if 0x80 ≤ n ∧ n ≤ 0x9f then Text.spellOut c
  else [c]

/-- How a plain line shows a text. -/
def showText (s : String) : String := String.ofList (s.toList.flatMap showChar)

/-- How a plain line shows a value. -/
def showValue : Log.FieldValue → String
  | .text s => showText s
  | .quoted s => showText (Text.quote s)
  | .number n => Number.showInt n

/-- How a plain line shows a field. -/
def showField (f : String × Log.FieldValue) : String := f.1 ++ "=" ++ showValue f.2

/-- How a plain line shows the span that an event stands in. -/
def showSpan (s : Log.Span) : String :=
  let fields := String.intercalate " " (s.fields.map showField)
  s.name ++ (if fields = "" then "" else "\x7b" ++ fields ++ "\x7d") ++ ": "

/-- The plain text of an event. -/
def showEvent (e : Log.Event) : String :=
  e.level.label ++ " " ++ (e.span.map showSpan).getD "" ++ e.target ++ ": " ++ showText e.message ++
    String.join (e.fields.map fun f => " " ++ showField f)

/-- The lines of a text, without blanks in front. -/
def plainLines (s : String) : List ConsoleLine :=
  (s.splitOn "\n").map fun l => .text (String.ofList (l.toList.dropWhile (· == ' ')))

/-! ## Records -/

/-- A value of a record. -/
def valueRecord : Log.FieldValue → Json.Value
  | .text s => .text s
  | .quoted s => .text s
  | .number n => Json.ofInt n

/-- The fields of a record. -/
def fieldRecord (f : String × Log.FieldValue) : String × Json.Value := (f.1, valueRecord f.2)

/-- A span in a record. -/
def spanRecord (s : Log.Span) : Json.Value :=
  .object (s.fields.map fieldRecord ++ [("name", .text s.name)])

/-- The record of an event. -/
def eventRecord (e : Log.Event) : Json.Value :=
  .object
    ([("level", .text e.level.label),
        ("fields", .object (("message", .text e.message) :: e.fields.map fieldRecord)),
        ("target", .text e.target)] ++
      match e.span with
      | some s => [("span", spanRecord s), ("spans", .array [spanRecord s])]
      | none => [])

/-- The record of the end of a span. -/
def closedRecord (s : Log.Span) : Json.Value :=
  .object
    [("level", .text Log.Level.info.label), ("fields", .object [("message", .text "close")]),
      ("target", .text s.target), ("span", spanRecord s), ("spans", .array [])]

/-- The lines of a notice. The end of a span shows in records only. -/
def Notice.write (form : LogForm) : Notice → List ConsoleLine
  | event e =>
    match form with
    | .plain => plainLines (showEvent e)
    | .records => [.record (eventRecord e)]
  | closed s =>
    match form with
    | .plain => []
    | .records => [.record (closedRecord s)]

end Probe

end NamedLock
