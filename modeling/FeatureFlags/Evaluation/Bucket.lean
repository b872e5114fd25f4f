import FeatureFlags.Digest.Sha1
import FeatureFlags.Evaluation.Error
import FeatureFlags.Text.Numeral

/-!
# `FeatureFlags.Evaluation.Bucket` — the place of a subject in the unit interval

Every client must put the same subject at the same place, so the place is computed from a digest of
the flag key and the subject: its first fifteen hexadecimal digits, as a fraction of the largest
number with fifteen digits.

A rollout admits the subjects whose place lies at or below its percentage.
-/

namespace FeatureFlags

/-- A digest function: text to hexadecimal digits. -/
abbrev Digest := String → String

namespace Bucket

/-- The number of digits of a digest that count. -/
def digits : Nat := 15

/-- The largest number with fifteen hexadecimal digits. -/
def scale : Nat := 0xFFFFFFFFFFFFFFF

/-- The text that is digested. -/
def source (key subject salt : String) : String := key ++ "." ++ subject ++ salt

/-- The number that the leading digits of a digest denote. -/
def leading? (hex : String) : Option Int :=
  (Numeral.readInteger 16 (hex.toList.take digits)).toOption

/-- The place of a subject: the exact quotient, rounded once.  Texts consist of Unicode scalar values, so
that each has an encoding and can be digested; a lone surrogate, which has none, is part of no text. -/
def place (digest : Digest) (key subject salt : String) : Except EvaluationError Binary64 :=
  let hex := digest (source key subject salt)
  match leading? hex with
  | some n => .ok (.ofRatio (n < 0) n.natAbs scale)
  | none => .error (.unreadableDigest key hex)

/-- Whether a rollout of the given percentage admits a subject. -/
def admits (digest : Digest) (key subject : String) (percentage : Number) :
    Except EvaluationError Bool := do
  let place ← place digest key subject ""
  match percentage.hundredth? with
  | some share => return place.le share
  | none => throw .quotientTooLarge

end Bucket

end FeatureFlags
