import FeatureFlags.Evaluation.Error
import FeatureFlags.Flag.Definition
import FeatureFlags.Json.Equality
import FeatureFlags.Pattern.Search
import FeatureFlags.Text.CaseFold

/-!
# `FeatureFlags.Evaluation.Matching` — whether a condition holds of a property bag

Operators that this library does not know never match, so that rules written for newer clients are
passed over.

## Contents

1. Operators
2. Containment, patterns, order
3. `Condition.holds`
-/

namespace FeatureFlags

/-- The properties of a subject, by name. -/
abbrev Properties := List (String × Json)

/-! ## Operators -/

/-- The comparisons of numbers. -/
inductive OrderOperator where
  | gt
  | lt
  | gte
  | lte
  deriving DecidableEq

namespace OrderOperator

/-- The comparison; nothing compares with not-a-number. -/
def compare (op : OrderOperator) (x y : Binary64) : Bool :=
  match op with
  | .gt => y.lt x
  | .lt => x.lt y
  | .gte => y.le x
  | .lte => x.le y

end OrderOperator

/-- The operators that this library knows.  Those that come in pairs carry whether the condition
asks for the positive one. -/
inductive Operator where
  | exact (positive : Bool)
  | isSet
  | isNotSet
  | contains (positive : Bool)
  | pattern (positive : Bool)
  | order (op : OrderOperator)
  deriving DecidableEq

namespace Operator

/-- The name of an operator. -/
def name : Operator → String
  | .exact true => "exact"
  | .exact false => "is_not"
  | .isSet => "is_set"
  | .isNotSet => "is_not_set"
  | .contains true => "icontains"
  | .contains false => "not_icontains"
  | .pattern true => "regex"
  | .pattern false => "not_regex"
  | .order .gt => "gt"
  | .order .lt => "lt"
  | .order .gte => "gte"
  | .order .lte => "lte"

/-- All operators. -/
def all : List Operator :=
  [.exact true, .exact false, .isSet, .isNotSet, .contains true, .contains false,
    .pattern true, .pattern false, .order .gt, .order .lt, .order .gte, .order .lte]

/-- The operator of a name. -/
def ofName? (name : String) : Option Operator := all.find? (·.name = name)

/-- The operator that a condition asks for, if it is known.  What is no text is no known operator;
a list or an object cannot even be looked up. -/
def ofJson? : Json → Except EvaluationError (Option Operator)
  | .str name => .ok (ofName? name)
  | .arr _ => .error (.operatorNotHashable .arr)
  | .obj _ => .error (.operatorNotHashable .obj)
  | _ => .ok none

end Operator

/-! ## Containment, patterns, order -/

/-- Whether a text occurs in another. -/
def occursIn (needle : List Char) : List Char → Bool
  | [] => needle.isEmpty
  | c :: rest => needle.isPrefixOf (c :: rest) || occursIn needle rest

/-- Whether a text occurs in another, up to case. -/
def containsFolded (haystack needle : String) : Bool :=
  occursIn (Text.caseFold needle.toList) (Text.caseFold haystack.toList)

namespace Condition

/-- The text in a given role. -/
def requireText (operator key : String) (role : TextRole) :
    Json → Except EvaluationError String
  | .str s => .ok s
  | other => .error (.notText operator key role other.kind)

/-- The double in a given role.  The message about a value that is no number holds its text. -/
def requireNumber (key : String) (role : NumberRole) : Json → Except EvaluationError Binary64
  | .number n =>
    match n.toBinary64? with
    | some x => .ok x
    | none => .error .integerTooLarge
  | other =>
    if other.isWritable then .error (.notOrderable role other key) else .error .integerUnwritable

/-- Whether a pattern is found in a text. -/
def findsPattern (pattern text : String) : Except EvaluationError Bool :=
  match Pattern.compile pattern.toList with
  | .ok compiled => .ok (compiled.search text.toList)
  | .error .invalid => .error (.invalidPattern pattern)
  | .error .repetitionTooLarge => .error .repetitionTooLarge
  | .error .codeTooLarge => .error .codeTooLarge
  | .error .flagsIncompatible => .error .flagsIncompatible
  | .error (.countTooLong digits) => .error (.countTooLong digits)
  | .error .tooDeep => .error .patternTooDeep

/-! ## `Condition.holds` -/

/-- Whether a known operator holds of a property. -/
def compare (op : Operator) (key : String) (expected actual : Json) :
    Except EvaluationError Bool :=
  match op with
  | .exact positive => .ok (expected.matchesExpected actual == positive)
  | .contains positive => do
    let needle ← requireText op.name key .expected expected
    let haystack ← requireText op.name key .property actual
    return containsFolded haystack needle == positive
  | .pattern positive => do
    let pattern ← requireText op.name key .pattern expected
    let text ← requireText op.name key .property actual
    return (← findsPattern pattern text) == positive
  | .order op => do
    let x ← requireNumber key .property actual
    let y ← requireNumber key .expected expected
    return op.compare x y
  | .isSet => .ok true
  | .isNotSet => .error .absenceUndecidable

/-- Whether a condition holds of a property bag. -/
def holds (c : Condition) (properties : Properties) : Except EvaluationError Bool := do
  match ← Operator.ofJson? c.operator with
  | none => return false
  | some .isNotSet => throw .absenceUndecidable
  | some .isSet => return (properties.lookup c.key).isSome
  | some op =>
    match properties.lookup c.key with
    | none => throw (.missingProperty c.key)
    | some actual => compare op c.key c.value actual

end Condition

end FeatureFlags
