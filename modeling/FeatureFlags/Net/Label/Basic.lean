import FeatureFlags.Text.Quoted

/-!
# `FeatureFlags.Net.Label.Basic` — why a text is no label of a domain name

Domain names consist of labels.  A label is given by code points, since what Punycode spells need
not be text.  Faults are of four sorts: a character is not allowed, or not where it stands, the
directions of the characters do not go together, or the label as a whole is not right.
-/

namespace FeatureFlags

namespace Label

/-- Why a text is no label.  Positions count from one. -/
inductive Fault where
  | empty
  | tooLong
  /-- Characters are not written in their composed form. -/
  | notComposed
  | hyphensInside
  | hyphenOutside
  | markFirst
  /-- A character is not allowed in labels. -/
  | notAllowed (code position : Nat) (label : List Nat)
  /-- A character is not allowed where it stands. -/
  | notAllowedHere (code position : Nat) (label : List Nat)
  /-- A joiner stands between characters that it cannot join. -/
  | joiner (code position : Nat) (label : List Nat)
  | directionUnknown (position : Nat) (label : List Nat)
  | directionFirst (label : List Nat)
  | directionInRightToLeft (position : Nat)
  | directionInLeftToRight (position : Nat)
  | numeralsMixed
  | directionLast
  /-- Nothing follows the sign of Punycode. -/
  | punycodeEmpty
  | punycodeHyphen
  | punycodeMalformed
  deriving DecidableEq

/-- The sorts of faults. -/
inductive FaultSort where
  | label
  | character
  | context
  | direction
  deriving DecidableEq

namespace Fault

/-- The sort of a fault. -/
def sort : Fault → FaultSort
  | .notAllowed .. => .character
  | .notAllowedHere .. => .context
  | .directionUnknown .. | .directionFirst _ | .directionInRightToLeft _
  | .directionInLeftToRight _ | .numeralsMixed | .directionLast => .direction
  | _ => .label

/-- The usual notation of a code point, with at least four digits. -/
def codeText (code : Nat) : String :=
  let digits := Text.hexDigits (max 4 (Nat.toDigits 16 code).length) code
  "U+" ++ String.ofList (digits.map Char.toUpper)

/-- Where a character stands in a label. -/
def place (code position : Nat) : String := codeText code ++ " at position " ++ toString position

/-- The wording of a fault. -/
def message : Fault → String
  | .empty => "Empty Label"
  | .tooLong => "Label too long"
  | .notComposed => "Label must be in Normalization Form C"
  | .hyphensInside => "Label has disallowed hyphens in 3rd and 4th position"
  | .hyphenOutside => "Label must not start or end with a hyphen"
  | .markFirst => "Label begins with an illegal combining character"
  | .notAllowed code position label =>
    "Codepoint " ++ place code position ++ " of " ++ Text.quotedCodes label ++ " not allowed"
  | .notAllowedHere code position label =>
    "Codepoint " ++ codeText code ++ " not allowed at position " ++ toString position ++ " in " ++
      Text.quotedCodes label
  | .joiner code position label =>
    "Unknown codepoint adjacent to joiner " ++ place code position ++ " in " ++
      Text.quotedCodes label
  | .directionUnknown position label =>
    "Unknown directionality in label " ++ Text.quotedCodes label ++ " at position " ++
      toString position
  | .directionFirst label =>
    "First codepoint in label " ++ Text.quotedCodes label ++ " must be directionality L, R or AL"
  | .directionInRightToLeft position =>
    "Invalid direction for codepoint at position " ++ toString position ++
      " in a right-to-left label"
  | .directionInLeftToRight position =>
    "Invalid direction for codepoint at position " ++ toString position ++
      " in a left-to-right label"
  | .numeralsMixed => "Can not mix numeral types in a right-to-left label"
  | .directionLast => "Label ends with illegal codepoint directionality"
  | .punycodeEmpty => "Malformed A-label, no Punycode eligible content found"
  | .punycodeHyphen => "A-label must not end with a hyphen"
  | .punycodeMalformed => "Invalid A-label"

end Fault

end Label

end FeatureFlags
