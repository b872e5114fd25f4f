import FeatureFlags.Evaluation.Bucket
import FeatureFlags.Flag.Definition

/-!
# `FeatureFlags.Evaluation.VariantRange` — which variant a subject gets

The variants of a flag share the unit interval in order: each takes the part that follows the one
before it and is as wide as its percentage.  A subject gets the variant in whose part it lies.
-/

namespace FeatureFlags

/-- The part of the unit interval from `low` up to, and without, `high`. -/
structure VariantRange where
  key : String
  low : Binary64
  high : Binary64

namespace VariantRange

/-- Whether a place lies in a range. -/
def contains (r : VariantRange) (place : Binary64) : Bool :=
  r.low.le place && place.lt r.high

/-- Lays out ranges of the given widths one after another. -/
def layOut (low : Binary64) : List (String × Binary64) → List VariantRange
  | [] => []
  | (key, width) :: rest =>
    let high := low.add width
    ⟨key, low, high⟩ :: layOut high rest

/-- The width of a variant: a hundredth of its percentage, none when it has no percentage. -/
def width (rollout : Option Binary64) : Binary64 :=
  match rollout with
  | none => .zero
  | some p => if p.isZero then .zero else p.hundredth

/-- The ranges of a flag's variants. -/
def table (variants : List Variant) : List VariantRange :=
  layOut .zero (variants.map fun v => (v.key, width v.rollout))

/-- The width of a variant whose percentage is any number. -/
def widthOfNumber (rollout : Option Number) : Except EvaluationError Binary64 :=
  match rollout with
  | none => .ok .zero
  | some (.float p) => .ok (width (some p))
  | some n =>
    match n.hundredth? with
    | some w => .ok w
    | none => .error .quotientTooLarge

/-- The ranges of shares that need not lie between 0 and 100. -/
def tableOfNumbers (shares : List (String × Option Number)) :
    Except EvaluationError (List VariantRange) := do
  let widths ← shares.mapM fun (key, rollout) => return (key, ← widthOfNumber rollout)
  return layOut .zero widths

/-- The salt that separates the choice of a variant from the rollout. -/
def salt : String := "variant"

/-- The first range of a table that contains the subject.  A table without ranges asks for no
digest. -/
def find? (digest : Digest) (flagKey subject : String) :
    List VariantRange → Except EvaluationError (Option VariantRange)
  | [] => .ok none
  | r :: rest => do
    let place ← Bucket.place digest flagKey subject salt
    if r.contains place then return some r else find? digest flagKey subject rest

end VariantRange

/-- The variant of a subject, or just *on* when the subject lies in no range. -/
def Flag.resolveVariant (digest : Digest) (flag : Flag) (subject : String) :
    Except EvaluationError FlagValue := do
  match ← VariantRange.find? digest flag.key subject (VariantRange.table (flag.variants.getD [])) with
  | some r => return .variant r.key
  | none => return .on

end FeatureFlags
