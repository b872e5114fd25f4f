import FeatureFlags.Json.Value

/-!
# `FeatureFlags.Flag.Definition` — flag definitions

A flag is decided by rule groups, each an *and* of conditions on properties with an optional
rollout percentage.  A multivariate flag then picks one of its variants.  Percentages lie between 0
and 100 in every decoded definition.
-/

namespace FeatureFlags

/-- A condition on one property.  `operator` and `scope` keep whatever value the server sent. -/
structure Condition where
  /-- The property the condition is about. -/
  key : String
  operator : Json := .str "exact"
  /-- What the property is compared with. -/
  value : Json := .null
  /-- Whose property it is. -/
  scope : Json := .str "person"

/-- Conditions that must all hold, gated by a rollout percentage if there is one. -/
structure RuleGroup where
  conditions : List Condition := []
  rollout : Option Binary64 := none

/-- One variant of a multivariate flag. -/
structure Variant where
  key : String
  rollout : Option Binary64 := none
  name : Json := .str ""

/-- The rules of a flag. -/
structure Filters where
  groups : List RuleGroup := []
  /-- The variants of a multivariate flag; their order fixes who gets which. -/
  variants : Option (List Variant) := none
  /-- The index of the group type whose members are decided together. -/
  groupTypeIndex : Option Int := none

/-- A feature flag. -/
structure Flag where
  key : String
  /-- A simple flag without groups is decided by its own rollout percentage. -/
  isSimple : Bool := false
  rollout : Option Binary64 := none
  active : Bool := true
  filters : Filters := {}

namespace Flag

/-- The rule groups of a flag. -/
abbrev groups (flag : Flag) : List RuleGroup := flag.filters.groups

/-- The variants of a flag, if it is multivariate. -/
abbrev variants (flag : Flag) : Option (List Variant) := flag.filters.variants

end Flag

/-- The value of a flag for a subject: on, off, or a variant. -/
inductive FlagValue where
  | bool (b : Bool)
  | variant (key : String)
  deriving DecidableEq

namespace FlagValue

/-- Off. -/
abbrev off : FlagValue := .bool false

/-- On. -/
abbrev on : FlagValue := .bool true

end FlagValue

end FeatureFlags
