import NamedLock.Config.Error
import NamedLock.Database.Error

/-!
# SharedError — errors of the parts that every program here uses

A failed database call or an unusable configuration. Only the first is worth another try.
-/

namespace NamedLock

/-- An error of the database or of the configuration. -/
inductive SharedError
  | database (source : DatabaseError)
  | config (source : ConfigError)
  deriving DecidableEq, Repr

namespace SharedError

/-- The message of the error behind it. -/
def source : SharedError → String
  | database e => e.message
  | config e => e.text

/-- The message of an error. -/
def message : SharedError → String
  | database e => "数据库错误: " ++ e.message
  | config e => "配置错误: " ++ e.text

/-- The code of an error. -/
def code : SharedError → String
  | database _ => "DATABASE_ERROR"
  | config _ => "CONFIG_ERROR"

/-- Whether another try may succeed. -/
def isRetryable : SharedError → Bool
  | database _ => true
  | config _ => false

end SharedError

end NamedLock
