import FeatureFlags.Json.Value

/-!
# `FeatureFlags.Log.Entry` — what is logged

An entry has a level, says what happened, and carries fields.
-/

namespace FeatureFlags

namespace Log

/-- The levels of entries. -/
inductive Level where
  | debug
  | info
  | warning
  | error
  | critical
  deriving DecidableEq

namespace Level

/-- The name of a level. -/
def name : Level → String
  | .debug => "debug"
  | .info => "info"
  | .warning => "warning"
  | .error => "error"
  | .critical => "critical"

/-- The number of a level; higher ones are more severe. -/
def number : Level → Nat
  | .debug => 10
  | .info => 20
  | .warning => 30
  | .error => 40
  | .critical => 50

/-- The levels, from the least severe. -/
def all : List Level := [.debug, .info, .warning, .error, .critical]

end Level

/-- An entry of the log. -/
structure Entry where
  level : Level
  event : String
  fields : List (String × Json) := []

end Log

end FeatureFlags
