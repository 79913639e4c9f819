import NamedLock.Ensemble
import NamedLock.Json.Decode
import NamedLock.Main
import NamedLock.Postgres.Session
import NamedLock.Session.Memory
import NamedLock.Session.Scripted
import NamedLock.Proofs.Memory.Permits
import NamedLock.Proofs.Memory.Roster
import NamedLock.Proofs.Ensemble.Run
import NamedLock.Proofs.Ensemble.Traffic
import NamedLock.Proofs.Ensemble.Filing
import NamedLock.Proofs.Ensemble.Places
import NamedLock.Proofs.Ensemble.Aside
import NamedLock.Proofs.Ensemble.Turnover
import NamedLock.Proofs.Ensemble.Authority
import NamedLock.Proofs.Memory.Custody
import NamedLock.Proofs.Memory.Posting
import NamedLock.Proofs.Memory.Keeping
import NamedLock.Proofs.Memory.Runs
import NamedLock.Proofs.Memory.Situation
import NamedLock.Proofs.Memory.Desk
import NamedLock.Proofs.Memory.Service
import NamedLock.Proofs.Ensemble.Ledger
import NamedLock.Proofs.Ensemble.Spent
import NamedLock.Proofs.Memory.Exclusion
import NamedLock.Proofs.Ensemble.Release
import NamedLock.Proofs.Ensemble.Recording
import NamedLock.Proofs.Ensemble.Accounts
import NamedLock.Proofs.Postgres.Inside
import NamedLock.Proofs.Memory.Conduct
import NamedLock.Proofs.Memory.Events
import NamedLock.Proofs.Memory.Order
import NamedLock.Proofs.Memory.Slots
import NamedLock.Proofs.Memory.Withdrawal
import NamedLock.Proofs.Memory.Contention
import NamedLock.Proofs.Config.Fields
import NamedLock.Proofs.Config.Settings
import NamedLock.Proofs.Config.Names
import NamedLock.Proofs.Config.Supply
import NamedLock.Proofs.Config.Sources
import NamedLock.Proofs.Config.Lookup
import NamedLock.Proofs.Config.Overrides
import NamedLock.Proofs.Ensemble.Views
import NamedLock.Proofs.Ensemble.Failure
import NamedLock.Proofs.Ensemble.Likeness
import NamedLock.Proofs.Ensemble.Watch
import NamedLock.Proofs.Memory.Recovery
import NamedLock.Proofs.Number.Decimal
import NamedLock.Proofs.Number.Rounding
import NamedLock.Proofs.Config.Refusals
import NamedLock.Proofs.Config.Integers
import NamedLock.Proofs.Key.Collision
import NamedLock.Proofs.Key.Encoding
import NamedLock.Proofs.Memory.Marks
import NamedLock.Proofs.Memory.Commuting
import NamedLock.Proofs.Memory.Ending
import NamedLock.Proofs.Postgres.Replies
import NamedLock.Proofs.Session.Dealings
import NamedLock.Proofs.Session.Closing
import NamedLock.Proofs.Handle.Life
import NamedLock.Proofs.Toml.Writing
import NamedLock.Proofs.Config.Partial
import NamedLock.Proofs.Memory.Journal
import NamedLock.Proofs.Memory.Accounting
import NamedLock.Proofs.Memory.Numbers
import NamedLock.Proofs.Memory.Bookkeeping
