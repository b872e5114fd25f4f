import FeatureFlags.Error
import FeatureFlags.Flag.Definition

/-!
# `FeatureFlags.Flag.Decode` — reading flag records

Each record type has a reader from JSON.  A null member reads as an absent one, members that no
reader asks for are ignored, and everything else that is not of the expected shape is an error.

## Contents

1. Causes of failure and their wording
2. Members of the expected shape
3. Conditions, groups, variants, filters, flags, listings
4. Server-side decisions
-/

namespace FeatureFlags

/-! ## Causes of failure and their wording -/

/-- Why a record could not be read. -/
inductive DecodeError where
  | notObject (what : String) (found : Json.Kind)
  | notList (what : String) (found : Json.Kind)
  | notNumber (what : String) (found : Json)
  | notBoolean (flagKey member : String) (found : Json)
  | keyNotText (what : String) (found : Json)
  | flagKeyEmpty (found : Json)
  | indexNotInteger (found : Json)
  | notFlagValue (key : String) (found : Json)
  /-- The body of an answer is no JSON text. -/
  | notJson (context : String)

namespace DecodeError

/-- The message of an error. -/
def message : DecodeError → String
  | .notObject what found => what ++ " must be an object, got " ++ found.text
  | .notList what found => what ++ " must be a list, got " ++ found.text
  | .notNumber what found => what ++ " must be a number, got " ++ found.text
  | .notBoolean flagKey member found =>
    flagKey ++ " " ++ member ++ " must be a boolean, got " ++ found.text
  | .keyNotText what found => what ++ " key must be a string, got " ++ found.text
  | .flagKeyEmpty found => "feature flag key must be a non-empty string, got " ++ found.text
  | .indexNotInteger found =>
    "aggregation_group_type_index must be an integer, got " ++ found.text
  | .notFlagValue key found =>
    "flag value for " ++ key ++ " must be bool or string, got " ++ found.text
  | .notJson context => context ++ ": response is not valid JSON"

/-- The error as the library reports it. -/
def report (e : DecodeError) : LibraryError := .ofKind .decode e.message

end DecodeError

namespace Decode

/-! ## Members of the expected shape -/

/-- The members of an object. -/
abbrev Members := List (String × Json)

/-- A member by name; an absent one is null. -/
def member (members : Members) (name : String) : Json := (members.lookup name).getD .null

/-- A member by name, or a default in place of an empty value. -/
def memberOr (members : Members) (name : String) (default : Json) : Json :=
  let value := member members name
  if value.isEmpty then default else value

/-- The members of what must be an object. -/
def object (what : String) : Json → Except DecodeError Members
  | .obj members => .ok members
  | other => .error (.notObject what other.kind)

/-- The items of what must be a list; null is the empty list. -/
def list (what : String) : Json → Except DecodeError (List Json)
  | .null => .ok []
  | .arr items => .ok items
  | other => .error (.notList what other.kind)

/-- An optional percentage, brought into the range from 0 to 100. -/
def optionalPercentage (what : String) : Json → Except DecodeError (Option Binary64)
  | .null => .ok none
  | .number n => .ok (some n.clampPercent)
  | other => .error (.notNumber what other)

/-- An optional boolean, false when absent. -/
def optionalBoolean (flagKey name : String) : Json → Except DecodeError Bool
  | .null => .ok false
  | .bool b => .ok b
  | other => .error (.notBoolean flagKey name other)

/-- The key of a condition or a variant. -/
def textKey (what : String) : Json → Except DecodeError String
  | .str key => .ok key
  | other => .error (.keyNotText what other)

/-- An optional index of a group type. -/
def optionalIndex : Json → Except DecodeError (Option Int)
  | .null => .ok none
  | .number (.int n) => .ok (some n)
  | other => .error (.indexNotInteger other)

end Decode

open Decode

/-! ## Conditions, groups, variants, filters, flags, listings -/

/-- Reads a condition; an empty operator or scope takes its default. -/
def Condition.ofJson (data : Json) : Except DecodeError Condition := do
  let members ← object "property" data
  let key ← textKey "property" (member members "key")
  return {
    key
    operator := memberOr members "operator" (.str "exact")
    value := member members "value"
    scope := memberOr members "type" (.str "person") }

/-- Reads a rule group. -/
def RuleGroup.ofJson (data : Json) : Except DecodeError RuleGroup := do
  let members ← object "group" data
  let items ← list "group properties" (member members "properties")
  let conditions ← items.mapM Condition.ofJson
  let rollout ← optionalPercentage "group rollout_percentage" (member members "rollout_percentage")
  return { conditions, rollout }

/-- Reads a variant. -/
def Variant.ofJson (data : Json) : Except DecodeError Variant := do
  let members ← object "variant" data
  let key ← textKey "variant" (member members "key")
  let rollout ← optionalPercentage "variant rollout_percentage" (member members "rollout_percentage")
  return { key, rollout, name := memberOr members "name" (.str "") }

/-- Reads the variants of a multivariate flag. -/
def Variant.listOfJson (data : Json) : Except DecodeError (List Variant) := do
  let members ← object "multivariate" data
  let items ← list "variants" (member members "variants")
  items.mapM Variant.ofJson

/-- Reads the rules of a flag.  The index is checked before the groups, the groups before the
variants, and an empty value in the place of the variants is none. -/
def Filters.ofJson : Json → Except DecodeError Filters
  | .null => .ok {}
  | data => do
    let members ← object "filters" data
    let multivariate := member members "multivariate"
    let groupTypeIndex ← optionalIndex (member members "aggregation_group_type_index")
    let items ← list "groups" (member members "groups")
    let groups ← items.mapM RuleGroup.ofJson
    let variants ←
      if multivariate.isEmpty then pure none
      else some <$> Variant.listOfJson multivariate
    return { groups, variants, groupTypeIndex }

/-- The key of a flag, which must not be empty. -/
def Flag.keyOfJson : Json → Except DecodeError String
  | .str key => if key = "" then .error (.flagKeyEmpty (.str key)) else .ok key
  | other => .error (.flagKeyEmpty other)

/-- Reads a flag. -/
def Flag.ofJson (data : Json) : Except DecodeError Flag := do
  let members ← object "feature flag" data
  let key ← Flag.keyOfJson (member members "key")
  let isSimple ← optionalBoolean key "is_simple_flag" (member members "is_simple_flag")
  let rollout ← optionalPercentage (key ++ " rollout_percentage") (member members "rollout_percentage")
  let active ← optionalBoolean key "active" (member members "active")
  let filters ← Filters.ofJson (member members "filters")
  return { key, isSimple, rollout, active, filters }

/-- Reads a listing of flags. -/
def Flag.listOfJson (payload : Json) : Except DecodeError (List Flag) := do
  let members ← object "feature flag response" payload
  let items ← list "results" (member members "results")
  items.mapM Flag.ofJson

/-! ## Server-side decisions -/

/-- Reads one decided value; null is off. -/
def FlagValue.ofJson (key : String) : Json → Except DecodeError FlagValue
  | .bool b => .ok (.bool b)
  | .str s => .ok (.variant s)
  | .null => .ok .off
  | other => .error (.notFlagValue key other)

/-- The values that the server decided, by flag key. -/
abbrev Decisions := List (String × FlagValue)

/-- Reads the values that the server decided; an empty value in their place is none. -/
def Decisions.ofJson (data : Json) : Except DecodeError Decisions := do
  let members ← object "decide response" data
  let flags ← object "featureFlags" (memberOr members "featureFlags" (.obj []))
  flags.mapM fun (key, value) => return (key, ← FlagValue.ofJson key value)

end FeatureFlags
