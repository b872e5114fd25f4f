import FeatureFlags.Error
import FeatureFlags.Json.Value
import FeatureFlags.Text.Numeral

/-!
# `FeatureFlags.Evaluation.Error` — why a flag could not be evaluated

Most causes are reported as errors of the library.  A few are failures of the arithmetic or of the
look-up itself and end the evaluation as foreign failures.
-/

namespace FeatureFlags

/-- The text that an operator needs. -/
inductive TextRole where
  | expected
  | property
  | pattern

namespace TextRole

def text : TextRole → String
  | .expected => "expected value"
  | .property => "property value"
  | .pattern => "pattern"

end TextRole

/-- The number that an ordering needs. -/
inductive NumberRole where
  | property
  | expected

namespace NumberRole

def text : NumberRole → String
  | .property => "Property value"
  | .expected => "Expected value"

end NumberRole

/-- Why a flag could not be evaluated. -/
inductive EvaluationError where
  /-- The absence of a property cannot be decided from a property bag. -/
  | absenceUndecidable
  | missingProperty (key : String)
  | notText (operator key : String) (role : TextRole) (found : Json.Kind)
  | notOrderable (role : NumberRole) (found : Json) (key : String)
  | invalidPattern (pattern : String)
  | unreadableDigest (key digest : String)
  /-- The flag has neither groups nor a rollout of its own. -/
  | noLocalRules (flagKey : String)
  /-- The group that the flag is decided for is not known. -/
  | unknownGroup (flagKey : String) (groupTypeIndex : Int)
  /-- The operator is a list or an object and cannot be looked up. -/
  | operatorNotHashable (found : Json.Kind)
  /-- An integer lies beyond the range of doubles. -/
  | integerTooLarge
  /-- A hundredth of an integer lies beyond the range of doubles. -/
  | quotientTooLarge
  /-- An integer that a message or a look-up needs has too many digits to be written. -/
  | integerUnwritable
  /-- A pattern repeats something more often than it can count. -/
  | repetitionTooLarge
  /-- An escape in a pattern gives a number beyond 31 bits for a code point. -/
  | codeTooLarge
  /-- A pattern asks for ASCII and for Unicode at once. -/
  | flagsIncompatible
  /-- A repetition count of a pattern has more digits than are read. -/
  | countTooLong (digits : Nat)
  /-- The groups of a pattern are nested too deeply. -/
  | patternTooDeep

namespace EvaluationError

/-- The error as the library reports it.  The message about an invalid pattern goes on with what the pattern
engine says of the fault; that part is left out, and the message ends with the pattern here. -/
def report : EvaluationError → Failure
  | .absenceUndecidable =>
    library .unsupportedOperator "Can't match properties with operator is_not_set"
  | .missingProperty key =>
    library .missingProperty ("Can't match " ++ Text.quoted key ++ " without a given property value")
  | .notText operator key role found =>
    library .typeMismatch (operator ++ " on " ++ Text.quoted key ++ " needs a string " ++ role.text
      ++ ", got " ++ found.text)
  | .notOrderable role found key =>
    library .notOrderable (role.text ++ " " ++ found.text ++ " of " ++ Text.quoted key
      ++ " is not orderable")
  | .invalidPattern pattern =>
    library .invalidPattern ("Invalid regex " ++ Text.quoted pattern)
  | .unreadableDigest key digest =>
    library .unreadableDigest ("Unable to parse digest for " ++ key ++ ": " ++ Text.quoted digest)
  | .noLocalRules flagKey =>
    library .inconclusive ("Flag " ++ flagKey ++ " has no locally evaluable rules")
  | .unknownGroup flagKey groupTypeIndex =>
    library .inconclusive ("Flag " ++ flagKey ++ " is aggregated by group type "
      ++ toString groupTypeIndex ++ " with no local group key")
  | .operatorNotHashable found =>
    .foreign ⟨.type, "unhashable type: '" ++ found.text ++ "'"⟩
  | .integerTooLarge => .foreign ⟨.overflow, "int too large to convert to float"⟩
  | .quotientTooLarge => .foreign ⟨.overflow, "integer division result too large for a float"⟩
  | .integerUnwritable => .foreign ⟨.value, Numeral.unwritableText⟩
  | .repetitionTooLarge => .foreign ⟨.overflow, "the repetition number is too large"⟩
  | .codeTooLarge => .foreign ⟨.overflow, "Python int too large to convert to C int"⟩
  | .flagsIncompatible => .foreign ⟨.value, "ASCII and UNICODE flags are incompatible"⟩
  | .countTooLong digits => .foreign ⟨.value, Numeral.tooLongText digits⟩
  | .patternTooDeep =>
    .foreign ⟨.recursion, "maximum recursion depth exceeded while calling a Python object"⟩
where
  library (kind : ErrorKind) (message : String) : Failure := .library (.ofKind kind message)

end EvaluationError

end FeatureFlags
