import NamedLock.Config.Load
import NamedLock.Postgres.Connect
import NamedLock.Probe.Console
import NamedLock.Probe.Endpoint
import NamedLock.Probe.Filter
import NamedLock.Registry

/-!
# Run — a program that takes one lock and holds it

The probe reads its settings, sets up its log, connects to the database, takes the lock that the settings name,
holds it for a time or until a signal arrives, and gives it up. An error ends it with a report: the message,
then what lies behind it.
-/

namespace NamedLock

namespace Probe

/-- The signal that ends the probe. -/
inductive Signal
  | interrupt
  | terminate
  deriving DecidableEq, Repr

/-- What the probe runs in. -/
structure Surroundings (σ : Type) where
  environment : Config.Environment.Variables
  files : Config.Files
  network : Postgres.Network σ
  backend : Backend σ
  /-- Tries a connection that has been made. -/
  health : σ → Except DatabaseError Unit
  /-- The token of the lock. -/
  token : String
  /-- The signal that arrives while the probe waits for the lock or holds it. -/
  signal : Signal
  /-- How many seconds the lock is held when the signal arrives. -/
  signalAfter : Nat := 0

/-- What a run leaves behind. -/
structure Outcome where
  exitCode : Nat
  stdout : List ConsoleLine
  stderr : List String

/-- A failure: a message and the messages of what lies behind it, nearest first. -/
structure Failure where
  message : String
  causes : List String
  deriving DecidableEq, Repr

namespace Failure

/-- The failure of a database. -/
def ofShared (e : SharedError) : Failure where
  message := e.message
  causes :=
    match e with
    | .database d => d.message :: d.causes
    | .config c => [c.text]

/-- The failure of a lock. -/
def ofLock (e : LockError) : Failure where
  message := e.message
  causes := e.causes

/-- The lines of a cause: the first after a head, the others moved in as far. -/
def causeLines (head indent : String) (s : String) : List String :=
  match s.splitOn "\n" with
  | [] => []
  | l :: ls => (head ++ l) :: ls.map (indent ++ ·)

/-- A number in front of a cause. -/
def causeHead (n : Nat) : String :=
  let ds := Nat.toDigits 10 n
  String.ofList (List.replicate (5 - ds.length) ' ' ++ ds) ++ ": "

/-- Causes with numbers in front. -/
def numbered : Nat → List String → List String
  | _, [] => []
  | n, c :: cs => causeLines (causeHead n) "       " c ++ numbered (n + 1) cs

/-- The report of a failure. Several causes are numbered. -/
def report (f : Failure) : List String :=
  causeLines "Error: " "" f.message ++
    match f.causes with
    | [] => []
    | [c] => ["", "Caused by:"] ++ causeLines "    " "    " c
    | cs => ["", "Caused by:"] ++ numbered 0 cs

end Failure

/-! ## Events -/

/-- The part of the program that events of the probe itself name. -/
def probeTarget : String := "lock_probe"

/-- The part of the program that sets up log and metrics. -/
def observabilityTarget : String := "advisory_lock_shared::observability"

/-- The part of the program that serves metrics. -/
def metricsTarget : String := "advisory_lock_shared::observability::metrics"

/-- The part of the program that connects to the database. -/
def databaseTarget : String := "advisory_lock_shared::database"

/-- An event outside of all spans. -/
def info (target message : String) (fields : Log.Fields) : Notice :=
  .event { level := .info, target, message, fields, span := none }

/-- How log lines show an optional number. -/
def showOptionalNumber : Option Nat → String
  | some n => "Some(" ++ Number.showNat n ++ ")"
  | none => "None"

/-- The span of a connection. -/
def connectSpan (s : Config.DatabaseSettings) : Log.Span where
  name := "connect"
  target := databaseTarget
  fields := [("max_connections", .number s.maxConnections.toNat)]

/-- What is told when log and metrics have been set up. -/
def setUpNotices (s : Config.AppSettings) : List Notice :=
  let o := s.observability
  let port := if o.metricsEnabled then some o.metricsPort.toNat else none
  (match port with
    | some n =>
      [info metricsTarget ("Metrics server listening on 0.0.0.0:" ++ Number.showNat n) []]
    | none => []) ++
  [info observabilityTarget "Observability initialized"
      [("service", .text s.serviceName), ("metrics_port", .text (showOptionalNumber port)),
        ("otlp_endpoint", .text (Text.quoteOption o.otlpEndpoint))],
    info probeTarget "Configuration loaded" [("environment", .text s.environment)]]

/-- What is told last. -/
def farewell : Notice := info observabilityTarget "Shutting down observability..." []

/-- What a signal is told with. -/
def signalNotice : Signal → Notice
  | .interrupt => info probeTarget "Received Ctrl+C, starting graceful shutdown..." []
  | .terminate => info probeTarget "Received SIGTERM, starting graceful shutdown..." []

/-- What is told when the pool is closed. -/
def poolClosed : Notice := info databaseTarget "PostgreSQL pool closed" []

/-! ## The run -/

variable {σ : Type}

/-- What a part of a run has told, and how it ended. -/
abbrev Told := List Notice × Except Failure Unit

/-- What an operation on the world has logged. -/
def loggedSince (before after : World σ) : List Notice :=
  (after.log.drop before.log.length).map .event

/-- What ends the time for which the lock is held: the time that the settings name, if any, or the signal. -/
def endOfHold (env : Surroundings σ) (s : Config.ProbeSettings) : Notice :=
  let n := s.holdSeconds.toNat
  if 0 < n ∧ n ≤ env.signalAfter then info probeTarget "Hold time elapsed" [("hold_seconds", .number n)]
  else signalNotice env.signal

/-- Takes the lock, holds it for its time or until the signal arrives, and gives it up. -/
def hold (env : Surroundings σ) (s : Config.ProbeSettings) (key : LockKey) (st : σ) : Told :=
  let start : World σ := { sessions := st }
  match Registry.acquire env.backend env.token key {} start with
  | (.finished (.error e), _, w) =>
    (loggedSince start w ++ [.closed (Registry.acquireSpan key)], .error (.ofLock e))
  | (.suspended _, _, w) =>
    (loggedSince start w ++ [signalNotice env.signal, .closed (Registry.acquireSpan key),
      info probeTarget "Shutdown requested before lock was acquired" [], poolClosed], .ok ())
  | (.finished (.ok token), reg, w) =>
    let (_, _, w') := Registry.unlock env.backend token reg w
    (loggedSince start w ++ [.closed (Registry.acquireSpan key), endOfHold env s] ++
      loggedSince w w' ++ [.closed (Registry.unlockSpan token), poolClosed,
        info probeTarget "Probe shutdown complete" []], .ok ())

/-- Connects, then holds the lock. -/
def connected (env : Surroundings σ) (s : Config.AppSettings) (key : LockKey) : Told :=
  let span := connectSpan s.database
  match Postgres.connect env.network s.database with
  | .error e => ([.closed span], .error (.ofShared e))
  | .ok st =>
    let ready : Notice := .event
      { level := .info, target := databaseTarget, message := "PostgreSQL pool ready",
        fields := [("pool_size", .number (max 1 s.database.minConnections.toNat))], span := some span }
    match env.health st with
    | .error e => ([ready, .closed span], .error (.ofShared (.database e)))
    | .ok () =>
      let (notices, result) := hold env s.probe key st
      ([ready, .closed span, info probeTarget "Database connection established" [],
        info probeTarget "Waiting for advisory lock..."
          [("resource_id", .text key.resourceId), ("lock_class", .text key.lockClass.label)]] ++ notices,
        result)

/-- Everything after log and metrics have been set up. -/
def body (env : Surroundings σ) (s : Config.AppSettings) : Told :=
  match LockClass.ofLabel? s.probe.lockClass with
  | none =>
    ([], .error
      { message := "invalid probe.lock_class"
        causes := [(LockError.unknownLockClass s.probe.lockClass).message] })
  | some lockClass => connected env s { resourceId := s.probe.resourceId, lockClass }

/-- Whether a notice passes a filter. An event whose span is not shown stands outside of it. -/
def visible? (f : Filter) : Notice → Option Notice
  | .event e =>
    if f.allowsEvent e then some (.event { e with span := e.span.filter f.allowsSpan }) else none
  | .closed s => if f.allowsSpan s then some (.closed s) else none

/-- The lines of notices. -/
def linesOf (f : Filter) (form : LogForm) (ns : List Notice) : List ConsoleLine :=
  (ns.filterMap (visible? f)).flatMap (·.write form)

/-- Runs with settings; `warnings` were written before. -/
def runWith (env : Surroundings σ) (warnings : List String) (s : Config.AppSettings) : Outcome :=
  let o := s.observability
  let endpoint : Except Failure Unit :=
    match o.otlpEndpoint with
    | none => .ok ()
    | some e =>
      (Endpoint.check e).mapError fun reason =>
        { message := "invalid URI " ++ e ++ ". Reason " ++ reason.message, causes := [] }
  match endpoint with
  | .error failure => { exitCode := 1, stdout := [], stderr := warnings ++ failure.report }
  | .ok () =>
    let filter := Filter.choose (Config.Environment.lookup? env.environment "RUST_LOG") o.logLevel
    let form : LogForm := if o.jsonLogs then .records else .plain
    let (notices, result) := body env s
    let stdout := linesOf filter form (setUpNotices s ++ notices ++ [farewell])
    match result with
    | .ok () => { exitCode := 0, stdout, stderr := warnings }
    | .error failure => { exitCode := 1, stdout, stderr := warnings ++ failure.report }

/-- The name of the probe as a service. -/
def serviceName : String := "lock-probe"

/-- Runs the probe. Settings that cannot be read are replaced by the defaults, with a warning. -/
def run (env : Surroundings σ) : Outcome :=
  match Config.load serviceName env.environment env.files with
  | .ok s => runWith env [] s
  | .error e =>
    runWith env (("Failed to load config, using defaults: " ++ e.text).splitOn "\n") {}

end Probe

end NamedLock
