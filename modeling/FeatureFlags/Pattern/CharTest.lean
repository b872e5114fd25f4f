import FeatureFlags.Pattern.Syntax
import FeatureFlags.Text.Letter

/-!
# `FeatureFlags.Pattern.CharTest` — which characters a set accepts

Without regard to case, a set accepts a character when it lists a character with the same lower
case, or a lower-case letter with the same upper case.  Outside the first 65536 code points the
members are compared with the lower case as they stand, and a range also with the upper case.

## Contents

1. Classes
2. Case rules
3. Members and sets
-/

namespace FeatureFlags

namespace Pattern

/-! ## Classes -/

/-- Whether a character is an ASCII letter, given its code point. -/
def isAsciiLetter (code : Nat) : Bool :=
  (0x41 ≤ code && code ≤ 0x5A) || (0x61 ≤ code && code ≤ 0x7A)

/-- Whether a character is in a class. -/
def CharClass.contains (ascii : Bool) (cls : CharClass) (c : Char) : Bool :=
  match cls, ascii with
  | .digit, true => '0' ≤ c && c ≤ '9'
  | .digit, false => Text.isDecimal c
  | .space, true => c == ' ' || ('\t' ≤ c && c ≤ '\r')
  | .space, false => Text.isSpace c
  | .word, true => ('0' ≤ c && c ≤ '9') || isAsciiLetter c.toNat || c == '_'
  | .word, false => Text.isAlphanumeric c || c == '_'

/-! ## Case rules -/

/-- Whether case matters, and for which characters it does not. -/
inductive CaseRule where
  | exact
  | ascii
  | unicode
  deriving DecidableEq

namespace CaseRule

/-- The lower case of a code point. -/
def lower (rule : CaseRule) (code : Nat) : Nat :=
  match rule with
  | .exact => code
  | .ascii => if 0x41 ≤ code ∧ code ≤ 0x5A then code + 0x20 else code
  | .unicode => if code.isValidChar then (Text.lower (Char.ofNat code)).toNat else code

/-- Whether the rule makes a code point equal to another. -/
def isCased (rule : CaseRule) (code : Nat) : Bool :=
  match rule with
  | .exact => false
  | .ascii => isAsciiLetter code
  | .unicode => code.isValidChar && Text.casedSet.contains (Char.ofNat code)

/-- The other lower-case letters that the rule makes equal to a lower-case letter. -/
def companions (rule : CaseRule) (code : Nat) : List Nat :=
  match rule with
  | .unicode => Text.sameUpper code
  | _ => []

/-- The code points with the given lower case. -/
def preimages (rule : CaseRule) (code : Nat) : List Nat :=
  match rule with
  | .exact => [code]
  | .ascii =>
    if 0x41 ≤ code ∧ code ≤ 0x5A then []
    else if 0x61 ≤ code ∧ code ≤ 0x7A then [code, code - 0x20]
    else [code]
  | .unicode => Text.lowerPreimages code

/-- Whether the rule makes a code point of a range equal to another. -/
def isCasedRange (rule : CaseRule) (low high : Nat) : Bool :=
  match rule with
  | .exact => false
  | .ascii => (low ≤ 0x5A && 0x41 ≤ high) || (low ≤ 0x7A && 0x61 ≤ high)
  | .unicode => Text.casedSet.table.any fun e => e.first ≤ high && low ≤ e.last

end CaseRule

/-! ## Members and sets -/

/-- The last code point that has its place in the table of a set. -/
def lastTabled : Nat := 0xFFFF

namespace SetMember

/-- Whether a member makes the case rule count for its set. -/
def isCased (rule : CaseRule) : SetMember → Bool
  | .char code => rule.isCased code || lastTabled < rule.lower code
  | .range low high => rule.isCasedRange low high || lastTabled < high
  | .inClass _ _ => false

/-- Whether a member accepts a character as it stands. -/
def accepts (asciiClasses : Bool) (c : Char) : SetMember → Bool
  | .char code => c.toNat == code
  | .range low high => low ≤ c.toNat && c.toNat ≤ high
  | .inClass cls negated => cls.contains asciiClasses c != negated

/-- Whether a member accepts a lower-case character without regard to case. -/
def acceptsFolded (rule : CaseRule) (asciiClasses : Bool) (c : Char) : SetMember → Bool
  | .char code =>
    let lower := rule.lower code
    if lower ≤ lastTabled then c.toNat == lower || (rule.companions lower).contains c.toNat
    else c.toNat == code
  | .range low high =>
    let tabled := (c.toNat :: rule.companions c.toNat).any fun k =>
      (rule.preimages k).any fun i => low ≤ i && i ≤ min high lastTabled
    let upper := (Text.upper c).toNat
    tabled || (lastTabled < high &&
      ((low ≤ c.toNat && c.toNat ≤ high) || (low ≤ upper && upper ≤ high)))
  | .inClass cls negated => cls.contains asciiClasses c != negated

end SetMember

/-- A test of one character. -/
inductive CharTest where
  | any
  | anyButNewline
  | char (negated : Bool) (code : Nat) (rule : CaseRule)
  | set (negated : Bool) (members : List SetMember) (rule : CaseRule) (asciiClasses : Bool)

namespace CharTest

/-- The test for a single character. -/
def ofChar (negated : Bool) (code : Nat) (rule : CaseRule) : CharTest :=
  .char negated code (if rule.isCased code then rule else .exact)

/-- The test for a set; the case rule counts when a member makes it count. -/
def ofSet (negated : Bool) (members : List SetMember) (rule : CaseRule) (asciiClasses : Bool) :
    CharTest :=
  .set negated members (if members.any (·.isCased rule) then rule else .exact) asciiClasses

/-- Whether a test accepts a character. -/
def accepts (c : Char) : CharTest → Bool
  | .any => true
  | .anyButNewline => c != '\n'
  | .char negated code rule =>
    let lower := rule.lower code
    let folded := rule.lower c.toNat
    (folded == lower || (rule.companions lower).contains folded) != negated
  | .set negated members .exact asciiClasses =>
    members.any (·.accepts asciiClasses c) != negated
  | .set negated members rule asciiClasses =>
    let folded := Char.ofNat (rule.lower c.toNat)
    members.any (·.acceptsFolded rule asciiClasses folded) != negated

end CharTest

end Pattern

end FeatureFlags
