import NamedLock.Config.Settings
import NamedLock.Postgres.Options
import NamedLock.SharedError

/-!
# Connect — opening a database

The connection string is read first; nothing is sent when it is refused. Then a first connection has to be
made in the time that is allowed.
-/

namespace NamedLock

namespace Postgres

/-- What comes of an attempt to reach a server. -/
abbrev Network (σ : Type) := Options → Except DatabaseError σ

/-- A network without a way to any server. -/
def unreachable {σ : Type} : Network σ := fun _ => .error (.io "Network is unreachable (os error 101)")

/-- Opens a database. A pool without connections or without time gives up. -/
def connect {σ : Type} (network : Network σ) (s : Config.DatabaseSettings) : Except SharedError σ :=
  match Options.parse s.url with
  | .error e => .error (.database e)
  | .ok o =>
    if s.maxConnections = 0 ∨ s.connectTimeoutSeconds = 0 then .error (.database .poolTimedOut)
    else (network o).mapError .database

end Postgres

end NamedLock
