import NamedLock.Probe.Run
import NamedLock.Session.ClosedPool
import NamedLock.Uuid

/-!
# Main — the probe as a command

Gathers what the probe runs in, runs it, and writes what it tells. No connection to a server can be made from here:
the network of the command is one without a way to any server.
-/

namespace NamedLock

namespace Command

/-- Where the variables of a process can be read. -/
def variablesFile : String := "/proc/self/environ"

/-- A variable out of a text with the name in front of the first equals sign. -/
def assignment? (cs : List Char) : Option (String × String) :=
  match cs.dropWhile (· ≠ '=') with
  | _ :: value => some (String.ofList (cs.takeWhile (· ≠ '=')), String.ofList value)
  | [] => none

/-- The texts between zero bytes. -/
def entries (bytes : List UInt8) : List (List UInt8) := bytes.splitBy fun a b => a != 0 && b != 0

/-- The variables that a block of bytes holds; those that are no text are passed over. -/
def variablesOf (block : ByteArray) : Config.Environment.Variables :=
  (entries block.toList).filterMap fun bytes =>
    (String.fromUTF8? (ByteArray.mk bytes.toArray)).bind fun s => assignment? s.toList

/-- The text of a file, if it can be read. -/
def readText? (path : String) : IO (Option String) := do
  try
    return some (← IO.FS.readFile path)
  catch _ =>
    return none

/-- The files that the settings of the probe may come from. -/
def readFiles (vs : Config.Environment.Variables) : IO Config.Files := do
  let found ← (Config.pathsOfInterest Probe.serviceName vs).mapM fun p => do
    return (p, ← readText? p.text)
  return fun p => ((found.find? (·.1 = p)).map (·.2)).getD none

/-- A number out of random bytes. -/
def randomBits : IO Nat := do
  return (← IO.getRandomBytes 16).toList.foldl (fun n b => 256 * n + b.toNat) 0

/-- The text of a line. -/
def lineText : Probe.ConsoleLine → String
  | .text s => s
  | .record v => Json.print v

end Command

end NamedLock

open NamedLock in
/-- Runs the probe. -/
def main : IO UInt32 := do
  let environment := Command.variablesOf (← IO.FS.readBinFile Command.variablesFile)
  let outcome := Probe.run
    { environment
      files := ← Command.readFiles environment
      network := Postgres.unreachable
      backend := ClosedPool.backend
      health := fun _ => .ok ()
      token := Uuid.ofRandom (← Command.randomBits)
      signal := .terminate }
  outcome.stdout.forM fun line => IO.println (Command.lineText line)
  outcome.stderr.forM IO.eprintln
  return outcome.exitCode.toUInt32
