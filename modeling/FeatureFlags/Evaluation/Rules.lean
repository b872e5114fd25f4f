import FeatureFlags.Evaluation.Matching
import FeatureFlags.Evaluation.VariantRange

/-!
# `FeatureFlags.Evaluation.Rules` — the value of a flag, from its definition alone

The first rule group that matches decides; within a group the first condition that does not hold
ends the walk, and the rollout is asked last.
-/

namespace FeatureFlags

/-- Whether all conditions hold; those after the first that does not are not looked at. -/
def allHold (properties : Properties) : List Condition → Except EvaluationError Bool
  | [] => .ok true
  | c :: rest => do
    if ← c.holds properties then allHold properties rest else return false

namespace Flag

/-- Whether a rule group of a flag matches a subject. -/
def groupMatches (digest : Digest) (flag : Flag) (subject : String) (properties : Properties)
    (group : RuleGroup) : Except EvaluationError Bool := do
  if ← allHold properties group.conditions then
    match group.rollout with
    | some percentage => Bucket.admits digest flag.key subject (.float percentage)
    | none => return true
  else return false

/-- The value of a flag once a group has matched. -/
def matchedValue (digest : Digest) (flag : Flag) (subject : String) :
    Except EvaluationError FlagValue :=
  match flag.variants with
  | some _ => flag.resolveVariant digest subject
  | none => .ok .on

/-- The value that the first matching group of a list gives; off when none matches. -/
def firstMatch (digest : Digest) (flag : Flag) (subject : String) (properties : Properties) :
    List RuleGroup → Except EvaluationError FlagValue
  | [] => .ok .off
  | group :: rest => do
    if ← flag.groupMatches digest subject properties group then flag.matchedValue digest subject
    else firstMatch digest flag subject properties rest

/-- The value that the rule groups of a flag give. -/
def matchGroups (digest : Digest) (flag : Flag) (subject : String) (properties : Properties) :
    Except EvaluationError FlagValue :=
  firstMatch digest flag subject properties flag.groups

/-- The percentage of a simple flag, everyone when it has none. -/
def simpleRollout (flag : Flag) : Number :=
  match flag.rollout with
  | some percentage => .float percentage
  | none => .int 100

/-- The value of a flag for a subject.  A flag with neither groups nor a rollout of its own cannot
be decided here. -/
def evaluate (digest : Digest) (flag : Flag) (subject : String) (properties : Properties) :
    Except EvaluationError FlagValue :=
  if flag.groups.isEmpty then
    if flag.isSimple then
      FlagValue.bool <$> Bucket.admits digest flag.key subject flag.simpleRollout
    else .error (.noLocalRules flag.key)
  else flag.matchGroups digest subject properties

end Flag

end FeatureFlags
