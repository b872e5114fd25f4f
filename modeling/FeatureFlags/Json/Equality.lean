import FeatureFlags.Json.Value

/-!
# `FeatureFlags.Json.Equality` — when two values are equal

There are two equalities.  `looselyEqual` takes a boolean for the integer 0 or 1; `matchesValue`,
which conditions use, tells booleans from numbers at the top and is loose below it.

Numbers are equal by exact value, lists item by item, objects by their members in any order.
-/

namespace FeatureFlags

namespace Json

/-- A boolean as a number. -/
def boolNumber (b : Bool) : Number := .int (if b then 1 else 0)

mutual

/-- Equality in which a boolean is the number 0 or 1. -/
def looselyEqual : Json → Json → Bool
  | .null, .null => true
  | .bool a, .bool b => a == b
  | .bool a, .number n => (boolNumber a).sameValue n
  | .number m, .bool b => m.sameValue (boolNumber b)
  | .number m, .number n => m.sameValue n
  | .str s, .str t => s == t
  | .arr xs, .arr ys => itemsLooselyEqual xs ys
  | .obj ms, .obj ns => ms.length == ns.length && membersLooselyIn ms ns
  | _, _ => false

/-- Item by item. -/
def itemsLooselyEqual : List Json → List Json → Bool
  | [], [] => true
  | x :: xs, y :: ys => looselyEqual x y && itemsLooselyEqual xs ys
  | _, _ => false

/-- Whether every member is found under its name with an equal value. -/
def membersLooselyIn : List (String × Json) → List (String × Json) → Bool
  | [], _ => true
  | (k, v) :: rest, ns =>
    (match ns.lookup k with
      | some w => looselyEqual v w
      | none => false) && membersLooselyIn rest ns

end

/-- Equality of a condition's value with a property: a boolean equals only the same boolean. -/
def matchesValue : Json → Json → Bool
  | .bool a, .bool b => a == b
  | .bool _, _ => false
  | _, .bool _ => false
  | x, y => looselyEqual x y

/-- A list stands for any of its members, everything else for itself. -/
def matchesExpected (expected actual : Json) : Bool :=
  match expected with
  | .arr items => items.any (·.matchesValue actual)
  | _ => expected.matchesValue actual

end Json

end FeatureFlags
