import FeatureFlags.Error
import FeatureFlags.Flag.Decode

/-!
# `FeatureFlags.Service.Basic` — the service that flags come from

A service lists the definitions of all flags and decides flags for a subject.  Both can fail with
any failure, and both can change the service.  A service that is no longer needed is closed.
-/

namespace FeatureFlags

/-- The key of each group that a subject belongs to, by group type. -/
abbrev Groups := List (String × String)

/-- The values that a service decided, by flag key, as it gave them. -/
abbrev Answers := List (String × Json)

/-- The operations of a service whose state is a `σ`. -/
structure Service (σ : Type) where
  /-- Lists the definitions of all flags. -/
  fetch : σ → Except Failure (List Flag) × σ
  /-- Decides the flags of a subject. -/
  decide : σ → String → Groups → Except Failure Answers × σ
  /-- Closes the service. -/
  close : σ → σ

namespace FlagValue

/-- A value as JSON. -/
def toJson : FlagValue → Json
  | .bool b => .bool b
  | .variant key => .str key

end FlagValue

end FeatureFlags
